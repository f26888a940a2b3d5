import DomainModel.Proofs.Live.Answers
import DomainModel.Proofs.Live.Making

/-!
# Definitions of classes

A definition of a class adds one class to the world and gives it its name; nothing else of what is there changes.
-/

namespace DomainModel.Live

open Run

/-! ## Stored fields -/

namespace Making
variable {members : List (String × Value)} {inherited : ClassInfo} {name n : String} {p q : Places} {ns : List String}
  {v : Value}

theorem add_spec (h : Places.add members inherited p n = .ok q) (hdict : n ≠ "__dict__") (hweakref : n ≠ "__weakref__") :
    q = { p with names := p.names ++ [n] } := by
  rw [Places.add, if_neg hdict, if_neg hweakref] at h
  split at h
  · cases h
  · exact (Except.ok.inj h).symm

theorem places_spec (h : places name members inherited = .ok p) (hslots : members.lookup "__slots__" = some (.names ns))
    (hns : ∀ n ∈ ns, PrivateName.spell name n = n ∧ n ≠ "__dict__" ∧ n ≠ "__weakref__") : p = { names := ns } := by
  have hfold : ∀ (ns : List String) (q : Places), (∀ n ∈ ns, n ≠ "__dict__" ∧ n ≠ "__weakref__") →
      ns.foldlM (Places.add members inherited) q = .ok p → p = { q with names := q.names ++ ns } := by
    intro ns
    induction ns with
    | nil =>
      intro q _ hq
      rw [List.append_nil]
      exact (Except.ok.inj hq).symm
    | cons n ns ih =>
      intro q hns hq
      rw [List.foldlM_cons] at hq
      cases hadd : Places.add members inherited q n with
      | error e =>
        rw [hadd] at hq
        cases hq
      | ok r =>
        rw [hadd] at hq
        obtain ⟨hdict, hweakref⟩ := hns n List.mem_cons_self
        rw [ih r (fun m hm => hns m (List.mem_cons_of_mem _ hm)) hq, add_spec hadd hdict hweakref, List.append_assoc]
        rfl
  have hmap : ns.map (PrivateName.spell name) = ns :=
    (List.map_congr_left fun n hn => (hns n hn).1).trans (List.map_id ns)
  unfold places at h
  rw [hslots] at h
  dsimp only at h
  rw [hmap] at h
  exact hfold ns {} (fun n hn => (hns n hn).2) h

/-! ## Announcing a class -/

section
variable {w w' : World} {c : ClassRef} {fuel : Nat} {ask : Answering} {refs : List ClassRef}

theorem adjust_eq (w : World) (c : ClassRef) (f : ClassInfo → ClassInfo) : w.adjust c f =
    { w with classes := w.classes.map fun e => if e.1 = c then (c, f e.2) else e } := rfl

theorem eq_of_boundBehind? (h : w.Orderly) (hd : w.boundBehind? c c "__init_subclass__" = some v) :
    (∃ cls, v = .native cls "__init_subclass__") ∨
      v = .classMethod (Standard.function "typing" "Generic" "__init_subclass__" (.standard .noteParameters)) := by
  obtain ⟨k, -, hk⟩ := List.exists_of_findSome?_eq_some hd
  rcases w.exists_entry_or_isFixed k with ⟨e, he, rfl, -, hm⟩ | hf
  · by_cases hgeneric : e.1 = .builtin "Generic"
    · rw [hgeneric, (h.ground_builtin "Generic").member? _ (by decide)] at hk
      exact .inr (Option.some.inj hk).symm
    · rw [hm, h.quiet e he hgeneric] at hk
      cases hk
  · rcases World.member?_of_isFixed hf (n := "__init_subclass__") (by decide) with hm | ⟨cls, -, hm⟩
    · rw [hm] at hk
      cases hk
    · exact .inl ⟨cls, (Option.some.inj (hm.symm.trans hk)).symm⟩

theorem noteParameters_spec {x : Value} (h : Standard.noteParameters (Request.answerWithin fuel) (.cls c) w = (.ok x, w')) :
    w' = w ∨ w' = w.adjust c (·.bind "__parameters__" (.names [])) := by
  rw [Standard.noteParameters, world_bind] at h
  dsimp only at h
  split at h
  · exact .inl (congrArg Prod.snd h).symm
  · split at h
    · cases h
    · obtain ⟨y, u, hassign, h⟩ := bind_eq_ok h
      cases h
      cases fuel with
      | zero => cases hassign
      | succ fuel =>
        obtain ⟨z, u, hassign, hend⟩ := bind_eq_ok hassign
        cases hend
        obtain ⟨z, u, hassign, hend⟩ := bind_eq_ok hassign
        cases hend
        rw [Assigning.assignClass, world_bind] at hassign
        split at hassign
        · cases hassign
        · exact .inr (congrArg Prod.snd hassign).symm

/-- Announcing a class changes nothing but what the class notes. -/
theorem announce_spec (h : w.Orderly) (ha : announce (Request.answerWithin fuel) c w = (.ok (), w')) :
    ∃ cells, w' = { w with cells := w.cells ++ cells } ∨
      w' = ({ w with cells := w.cells ++ cells }).adjust c (·.bind "__parameters__" (.names [])) := by
  have hnothing : ∃ cells, w = { w with cells := w.cells ++ cells } := ⟨[], by rw [List.append_nil]⟩
  rw [announce, world_bind] at ha
  cases hd : w.boundBehind? c c "__init_subclass__" with
  | none =>
    rw [hd] at ha
    cases ha
    exact hnothing.imp fun _ => .inl
  | some d =>
    rw [hd] at ha
    rcases eq_of_boundBehind? h hd with ⟨cls, rfl⟩ | rfl
    · cases ha
      exact hnothing.imp fun _ => .inl
    · -- the method is bound to the class in a new cell, and called without arguments
      let f := Standard.function "typing" "Generic" "__init_subclass__" (.standard .noteParameters)
      let w₁ : World := { w with cells := w.cells ++ [.method (.cls c) (.function f)] }
      have hcell : w₁.cell? (.cell w.cells.length) = some (.method (.cls c) (.function f)) := by
        simp [World.cell?, w₁]
      obtain ⟨m, v, hbind, ha⟩ := bind_eq_ok ha
      cases hbind
      obtain ⟨x, v, hcall, ha⟩ := bind_eq_ok ha
      cases ha
      refine ⟨[.method (.cls c) (.function f)], ?_⟩
      match fuel with
      | 0 => cases hcall
      | 1 =>
        rw [Answering.call, Request.call_method hcell] at hcall
        cases hcall
      | fuel + 2 =>
        rw [Answering.call, Request.call_method hcell, Request.call_function (show _ = some [Value.cls c] from rfl)] at hcall
        exact noteParameters_spec hcall

/-! ## Making a class -/

/-- The class that is made next, and what it is. -/
structure Makes (w w' : World) (name : String) (bases : List ClassRef) (members : List (String × Value)) (ns : List String)
    (i i' : ClassInfo) (p : Places) (line : List ClassRef) (missing : List String) (cells : List Cell) : Prop where
  made : MadeOf w (.made w.classes.length) name bases members i p line missing
  names : p.names = ns
  attributes : p.attributes = false
  keeps : i.Keeps i'
  world : w' = { w with cells := w.cells ++ cells, classes := w.classes ++ [(.made w.classes.length, i')] }
  orderly : w'.Orderly

theorem adjust_append (h : w.Orderly) (i : ClassInfo) (f : ClassInfo → ClassInfo) (cells : List Cell) :
    ({ w with cells, classes := w.classes ++ [(.made w.classes.length, i)] } : World).adjust (.made w.classes.length) f =
      { w with cells, classes := w.classes ++ [(.made w.classes.length, f i)] } := by
  have hsame : (w.classes.map fun e => if e.1 = .made w.classes.length then (.made w.classes.length, f e.2) else e) =
      w.classes := by
    refine (List.map_congr_left fun e he => if_neg fun hi => ?_).trans (List.map_id _)
    exact h.not_mem_classes (hi ▸ List.mem_map_of_mem he)
  rw [adjust_eq, List.map_append, hsame]
  simp

theorem mapM_bases {refs : List ClassRef} (hrefs : ∀ c ∈ refs, ∀ n, c ≠ .builtin n) (w : World) :
    ((refs.map Value.cls).mapM fun (b : Value) =>
      match b with
      | .cls c => if Builtin.closed.any (fun n => c = ClassRef.builtin n) then unsuitable else (pure c : Run ClassRef)
      | _ => unsuitable) w = (.ok refs, w) := by
  induction refs with
  | nil => rfl
  | cons c cs ih =>
    have hclosed : Builtin.closed.any (fun n => c = ClassRef.builtin n) = false := by
      simp [hrefs c List.mem_cons_self]
    rw [List.map_cons, List.mapM_cons]
    dsimp only
    rw [if_neg (by rw [hclosed]; exact Bool.false_ne_true), pure_bind_apply, bind_of_ok (ih fun c hc => hrefs c (List.mem_cons_of_mem _ hc))]
    rfl

/-- A class whose body asks for places of some names, or that has what a class without them would add. -/
def AsksFor (w : World) (name : String) (bases : List ClassRef) (members : List (String × Value)) (ns : List String) : Prop :=
  ∀ inherited p, inherited.holdsAttributes = (bases.any fun b => (w.info b).holdsAttributes) →
    places name members inherited = .ok p → p.names = ns ∧ p.attributes = false

theorem asksFor_of_slots {bases : List ClassRef} (hslots : members.lookup "__slots__" = some (.names ns))
    (hns : ∀ n ∈ ns, PrivateName.spell name n = n ∧ n ≠ "__dict__" ∧ n ≠ "__weakref__") :
    AsksFor w name bases members ns := by
  intro inherited p _ hp
  rw [places_spec hp hslots hns]
  exact ⟨rfl, rfl⟩

theorem asksFor_of_none {bases : List ClassRef} (hslots : members.lookup "__slots__" = none)
    (hbases : (bases.any fun b => (w.info b).holdsAttributes) = true) : AsksFor w name bases members [] := by
  intro inherited p hi hp
  rw [places, hslots] at hp
  rw [← Except.ok.inj hp, hi, hbases]
  exact ⟨rfl, rfl⟩

theorem make_spec {name : String} {refs : List ClassRef} (h : w.Orderly) (hrefs : ∀ c ∈ refs, ∀ n, c ≠ .builtin n)
    (hknown : ∀ c ∈ refs, w.isFixed c = false) (hasks : AsksFor w name (if refs.isEmpty then [.object] else refs) members ns)
    (hfree : ∀ n ∈ "__init_subclass__" :: hookNames, members.lookup n = none ∧ n ∉ ns)
    (hmake : make (Request.answerWithin fuel) name (refs.map .cls) members w = (.ok c, w')) :
    c = .made w.classes.length ∧ ∃ i i' p line missing cells,
      Makes w w' name (if refs.isEmpty then [.object] else refs) members ns i i' p line missing cells := by
  rw [make] at hmake
  obtain ⟨rs, v, hrs, hmake⟩ := bind_eq_ok hmake
  cases (mapM_bases hrefs w).symm.trans hrs
  dsimp only at hmake
  obtain ⟨own, v, hnext, hmake⟩ := bind_eq_ok hmake
  cases hnext
  rw [world_bind] at hmake
  cases hi : info w (.made w.classes.length) name (if refs.isEmpty then [.object] else refs) members with
  | error e =>
    rw [hi] at hmake
    cases hmake
  | ok i =>
    rw [hi] at hmake
    dsimp only at hmake
    obtain ⟨p, line, missing, hmade⟩ := madeOf_of_info hi
    obtain ⟨inherited, hattributes, hplaces⟩ := hmade.places
    obtain ⟨hnames, hno⟩ := hasks inherited p hattributes hplaces
    -- none of the hooks is filled in by the completion of the class, so the announcement finds none on it
    have hcomplete : ∀ n ∈ "__init_subclass__" :: hookNames,
        (complete (.made w.classes.length) p members).lookup n = none := by
      intro n hn
      have hcommon : n ∉ commonNames := by
        have hall : ∀ m ∈ "__init_subclass__" :: hookNames, m ∉ commonNames := by decide
        exact hall n hn
      rw [lookup_complete hcommon, (hfree n hn).1, hnames, if_neg (hfree n hn).2]
      rfl
    have hbases : (if refs.isEmpty then [ClassRef.object] else refs) ≠ [] := by
      split
      · exact List.cons_ne_nil _ _
      · next hr => exact fun he => hr (by rw [he]; rfl)
    have hbasesKnown : ∀ b ∈ (if refs.isEmpty then [ClassRef.object] else refs), w.isFixed b = false ∨ b = .object := by
      intro b hb
      split at hb
      · exact .inr (List.mem_singleton.mp hb)
      · exact .inl (hknown b hb)
    have happend {i' : ClassInfo} (hkeeps : i.Keeps i') {w' : World}
        (hw : w'.classes = w.classes ++ [(.made w.classes.length, i')]) (hr : w'.registered = w.registered) : w'.Orderly :=
      h.append hmade hkeeps rfl hbases hbasesKnown hcomplete hw hr
    rw [change_bind] at hmake
    obtain ⟨u, v, hannounce, hmake⟩ := bind_eq_ok hmake
    obtain ⟨rfl, rfl⟩ : ClassRef.made w.classes.length = c ∧ v = w' := by
      cases hmake
      exact ⟨rfl, rfl⟩
    let w₁ : World := { w with classes := w.classes ++ [(.made w.classes.length, i)] }
    have horderly : w₁.Orderly := happend (.refl i) rfl rfl
    -- announcing a class leaves it as it is or binds its parameters, where a base is generic
    obtain ⟨cells, rfl | rfl⟩ := announce_spec horderly hannounce
    · exact ⟨rfl, i, i, p, line, missing, cells, hmade, hnames, hno, .refl i, rfl, happend (.refl i) rfl rfl⟩
    · have hkeeps := ClassInfo.Keeps.bind i (n := "__parameters__") (by decide) (.names [])
      have hworld := adjust_append h i (·.bind "__parameters__" (.names [])) (w.cells ++ cells)
      refine ⟨rfl, i, _, p, line, missing, cells, hmade, hnames, hno, hkeeps, hworld, ?_⟩
      rw [hworld]
      exact happend hkeeps rfl rfl

end

end Making

/-! ## Defining a class -/

namespace Loading

def startBindings (name : String) : List (String × Value) :=
  [("__module__", .constant "generated"), ("__qualname__", .constant name)]

/-- The names of a module keep what the statements of a module take for granted. -/
structure Grounds (w : World) : Prop where
  orderly : w.Orderly
  builtins : w.globals.lookup builtinsName = some builtins
  name : w.globals.lookup "__name__" = some (.constant "generated")
  cutOff : w.cutOff = []

/-- A world with a class more, which has been given its name. -/
structure Defines (w w' : World) (name : String) (bases : List ClassRef) (members : List (String × Value)) (ns : List String)
    (i i' : ClassInfo) (p : Making.Places) (line : List ClassRef) (missing : List String) (cells cells' : List Cell) : Prop where
  made : Making.MadeOf { w with cells } (.made w.classes.length) name bases members i p line missing
  names : p.names = ns
  attributes : p.attributes = false
  keeps : i.Keeps i'
  world : w' = { w with
    cells := cells'
    classes := w.classes ++ [(.made w.classes.length, i')]
    globals := bindMember name (.cls (.made w.classes.length)) w.globals }
  cells : w.cells <+: cells'
  orderly : w'.Orderly

theorem orderly_of_classes {w w' : World} (h : w.Orderly) (hc : w'.classes = w.classes) (hr : w'.registered = w.registered) :
    w'.Orderly := by
  refine World.Orderly.of_forall₂ h ?_ hr
  rw [hc]
  exact List.forall₂_same.mpr fun e _ => ⟨rfl, (ClassInfo.Keeps.refl e.2).stays, fun _ => .refl e.2⟩

theorem defineClass_spec {w w' : World} {fuel : Nat} {name : String} {bases ns ts : List String} {refs : List ClassRef}
    {items : List Item} {bs : List (String × Value)} {cells : List Cell} (h : Grounds w)
    (hrefs : ∀ c ∈ refs, ∀ n, c ≠ .builtin n) (hknown : ∀ c ∈ refs, w.isFixed c = false)
    (hbases : bases.mapM Run.global w = (.ok (refs.map .cls), w))
    (hadds : Adds (Request.answerWithin fuel) ts items bs w { w with cells := w.cells ++ cells })
    (hstart : ∀ n ∈ ["__module__", "__qualname__"], n ∉ bs.map (·.1) ∧ n ∉ ts)
    (hasks : Making.AsksFor { w with cells := w.cells ++ cells } name (if refs.isEmpty then [.object] else refs)
      (startBindings name ++ bs) ns)
    (hfree : ∀ n ∈ "__init_subclass__" :: hookNames, n ∉ bs.map (·.1) ∧ n ∉ ns)
    (hdefine : defineClass (Request.answerWithin fuel) name bases items w = (.ok (), w')) :
    ∃ i i' p line missing cells', Defines w w' name (if refs.isEmpty then [.object] else refs) (startBindings name ++ bs) ns
      i i' p line missing (w.cells ++ cells) cells' := by
  have hname : Run.global "__name__" w = (.ok (.constant "generated"), w) := by
    rw [Run.global, world_bind, World.global?, h.name]
    rfl
  have hbody : items.foldlM (runItem (Request.answerWithin fuel)) (startBindings name) w =
      (.ok (startBindings name ++ bs), { w with cells := w.cells ++ cells }) := by
    refine hadds _ (fun n hn => ?_) fun t ht => ?_
    · refine lookup_eq_none_of_not_mem fun hmem => ?_
      exact (hstart n hmem).1 hn
    · refine lookup_eq_none_of_not_mem fun hmem => ?_
      exact (hstart t hmem).2 ht
  have hlookup {n : String} (hn : n ∉ ["__module__", "__qualname__"]) :
      (startBindings name ++ bs).lookup n = bs.lookup n := by
    rw [lookup_append, lookup_eq_none_of_not_mem hn, Option.none_or]
  rw [defineClass, bind_of_ok hbases, world_bind, h.builtins, if_neg (by simp)] at hdefine
  dsimp only at hdefine
  rw [bind_of_ok hname] at hdefine
  obtain ⟨members, v, hmembers, hdefine⟩ := bind_eq_ok hdefine
  cases hbody.symm.trans hmembers
  obtain ⟨c, v, hmake, hend⟩ := bind_eq_ok hdefine
  have horderly : World.Orderly { w with cells := w.cells ++ cells } := orderly_of_classes h.orderly rfl rfl
  have hfree' : ∀ n ∈ "__init_subclass__" :: hookNames, (startBindings name ++ bs).lookup n = none ∧ n ∉ ns := by
    intro n hn
    have hnot : n ∉ ["__module__", "__qualname__"] := by
      revert hn
      clear hfree
      revert n
      decide
    exact ⟨by rw [hlookup hnot, lookup_eq_none_of_not_mem (hfree n hn).1], (hfree n hn).2⟩
  obtain ⟨rfl, i, i', p, line, missing, cells', hmakes⟩ := Making.make_spec horderly hrefs hknown hasks hfree' hmake
  have hnamed : w' = v.setGlobal name (.cls (.made w.classes.length)) := (congrArg Prod.snd hend).symm
  refine ⟨i, i', p, line, missing, w.cells ++ cells ++ cells', hmakes.made, hmakes.names, hmakes.attributes, hmakes.keeps,
    ?_, ?_, ?_⟩
  · rw [hnamed, hmakes.world]
    rfl
  · rw [List.append_assoc]
    exact List.prefix_append _ _
  · rw [hnamed]
    exact orderly_of_classes hmakes.orderly rfl rfl

end Loading

end DomainModel.Live
