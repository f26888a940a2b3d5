import DomainModel.Proofs.Live.Embodying
import DomainModel.Proofs.Live.Sound

/-!
# Statements of a module

What each statement of a module does to the world: it makes classes, gives names, and changes the classes that it
names. What was there before, and is not named, stays.
-/

namespace DomainModel.Live

open Run

/-- What is done for each part of a list keeps what the parts before it have established. -/
theorem Run.forM_induction {α : Type} {f : α → Run Unit} {I : List α → World → Prop} {xs : List α} {w w' : World}
    (hstep : ∀ done x w w', done ++ [x] <+: xs → I done w → f x w = (.ok (), w') → I (done ++ [x]) w')
    (h : I [] w) (hrun : xs.forM f w = (.ok (), w')) : I xs w' := by
  have hall : ∀ rest done w, done ++ rest = xs → I done w → rest.forM f w = (.ok (), w') → I xs w' := by
    intro rest
    induction rest with
    | nil =>
      intro done w hdone hi hrun
      cases hrun
      rwa [← hdone, List.append_nil]
    | cons x rest ih =>
      intro done w hdone hi hrun
      obtain ⟨u, v, hx, hrest⟩ := bind_eq_ok hrun
      have hpre : done ++ [x] ++ rest = xs := by rw [List.append_assoc, List.singleton_append, hdone]
      exact ih (done ++ [x]) v hpre (hstep done x w v ⟨rest, hpre⟩ hi hx) hrest
  exact hall xs [] w rfl h hrun

/-- What is done for each part of a list goes on as long as the parts are fit for it, and fails with the first one that is
not. -/
theorem Run.forM_fits {α : Type} {f : α → Run Unit} {I : List α → World → Prop} {Fits : α → Prop} {e : Fault} {xs : List α}
    {w : World} (hfits : ∀ done x w, done ++ [x] <+: xs → I done w → Fits x → ∃ w', f x w = (.ok (), w') ∧ I (done ++ [x]) w')
    (hfails : ∀ done x w, done ++ [x] <+: xs → I done w → ¬Fits x → (f x w).1 = .error e) (h : I [] w) :
    ((∀ x ∈ xs, Fits x) → ∃ w', xs.forM f w = (.ok (), w') ∧ I xs w') ∧
      ((∃ x ∈ xs, ¬Fits x) → (xs.forM f w).1 = .error e) := by
  have hall : ∀ rest done w, done ++ rest = xs → I done w →
      ((∀ x ∈ rest, Fits x) → ∃ w', rest.forM f w = (.ok (), w') ∧ I xs w') ∧
        ((∃ x ∈ rest, ¬Fits x) → (rest.forM f w).1 = .error e) := by
    intro rest
    induction rest with
    | nil =>
      intro done w hdone hi
      rw [List.append_nil] at hdone
      exact ⟨fun _ => ⟨w, rfl, hdone ▸ hi⟩, nofun⟩
    | cons x rest ih =>
      intro done w hdone hi
      have hpre : done ++ [x] ++ rest = xs := by rw [List.append_assoc, List.singleton_append, hdone]
      have hcons : (x :: rest).forM f = (f x >>= fun _ => rest.forM f) := rfl
      rw [hcons]
      by_cases hx : Fits x
      · obtain ⟨v, hrun, hi'⟩ := hfits done x w ⟨rest, hpre⟩ hi hx
        rw [bind_of_ok hrun]
        obtain ⟨hok, herror⟩ := ih (done ++ [x]) v hpre hi'
        refine ⟨fun hrest => hok fun y hy => hrest y (List.mem_cons_of_mem _ hy), ?_⟩
        rintro ⟨y, hy, hnot⟩
        rcases List.mem_cons.mp hy with rfl | hy
        · exact absurd hx hnot
        · exact herror ⟨y, hy, hnot⟩
      · have hrun := hfails done x w ⟨rest, hpre⟩ hi hx
        refine ⟨fun hrest => absurd (hrest x List.mem_cons_self) hx, fun _ => ?_⟩
        rw [bind_of_error (Prod.ext hrun rfl)]
  exact hall xs [] w rfl h

namespace Loading

/-! ## What statements keep -/

/-- What a statement keeps: it gives no other names than `ns`, and changes no other classes than `cs`. -/
structure Steps (ns : List String) (cs : List ClassRef) (w w' : World) : Prop where
  grounds : Grounds w'
  labelled : w'.Labelled
  agrees : ∀ c, w.isFixed c = false → c ∉ cs → w.Agrees w' c
  globals : ∀ n ∉ ns, w'.globals.lookup n = w.globals.lookup n

section
variable {ns ns' : List String} {cs cs' : List ClassRef} {w w' w'' : World} {c k : ClassRef} {p : ClassPlan}
  {vs : List (Variant × ClassRef)} {v : Variant}

theorem Steps.trans (h : Steps ns cs w w') (h' : Steps ns' cs' w' w'') : Steps (ns ++ ns') (cs ++ cs') w w'' := by
  refine ⟨h'.grounds, h'.labelled, fun c hc hmem => ?_, fun n hn => ?_⟩
  · rw [List.mem_append, not_or] at hmem
    have ha := h.agrees c hc hmem.1
    exact ha.trans (h'.agrees c (ha.isFixed.trans hc) hmem.2)
  · rw [List.mem_append, not_or] at hn
    exact (h'.globals n hn.2).trans (h.globals n hn.1)

theorem Steps.mono (h : Steps ns cs w w') (hns : ns ⊆ ns') (hcs : ∀ c ∈ cs, w.isFixed c = false → c ∈ cs') :
    Steps ns' cs' w w' :=
  ⟨h.grounds, h.labelled, fun c hc hmem => h.agrees c hc fun hmem' => hmem (hcs c hmem' hc),
    fun n hn => h.globals n fun hmem => hn (hns hmem)⟩

theorem Steps.embodies (h : Steps ns cs w w') (hp : Embodies w p c vs) (hn : p.name ∉ ns) (hc : c ∉ cs) :
    Embodies w' p c vs := hp.of_agrees (h.agrees c hp.there hc) (h.globals _ hn)

theorem Steps.embodiesVariant (h : Steps ns cs w w') (hv : EmbodiesVariant w p c v k) (hk : k ∉ cs)
    (hc : w'.linearize c = w.linearize c) : EmbodiesVariant w' p c v k := hv.of_agrees (h.agrees k hv.there hk) hc

theorem steps_of_defines {name : String} {bases line : List ClassRef} {members : List (String × Value)} {ns : List String}
    {i i' : ClassInfo} {q : Making.Places} {missing : List String} {cells cells' : List Cell} (hg : Grounds w)
    (hl : w.Labelled) (hname : name ∉ [builtinsName, "__name__"])
    (h : Defines w w' name bases members ns i i' q line missing cells cells') : Steps [name] [] w w' := by
  have hagrees : ∀ c, w.isFixed c = false → w.Agrees w' c := by
    intro c hc
    refine h.agrees fun he => ?_
    rw [he, hg.orderly.isFixed_next] at hc
    cases hc
  have hglobals : ∀ n ∉ [name], w'.globals.lookup n = w.globals.lookup n := by
    intro n hn
    rw [h.globals]
    exact lookup_bindMember_of_ne (fun he => hn (List.mem_singleton.mpr he)) _ _
  simp only [List.mem_cons, List.not_mem_nil, or_false, not_or] at hname
  refine ⟨⟨h.orderly, ?_, ?_, ?_⟩, hl.of_agrees (by rw [h.world]) hagrees, fun c hc _ => hagrees c hc, hglobals⟩
  · exact (hglobals _ (by simpa using Ne.symm hname.1)).trans hg.builtins
  · exact (hglobals _ (by simpa using Ne.symm hname.2)).trans hg.name
  · rw [h.world]
    exact hg.cutOff

structure Stage (m : Module) (w : World) : Prop where
  grounds : Grounds w
  labelled : w.Labelled
  untouched : ∀ n ∉ m.assigned, w.globals.lookup n = imports.lookup n

theorem Stage.of_steps {m : Module} (h : Stage m w) (hs : Steps ns cs w w') (hns : ns ⊆ m.assigned) : Stage m w' :=
  ⟨hs.grounds, hs.labelled, fun n hn => (hs.globals n fun hmem => hn (hns hmem)).trans (h.untouched n hn)⟩

end

/-! ## Errors -/

/-- The names of which it does not matter what the class of an error binds to them. -/
def errorNames : List String := noteNames ++ ["__module__", "__qualname__", "__dict__", "__weakref__", "__doc__", "__hash__"]

structure IsError (w : World) (c : ClassRef) : Prop where
  there : w.isFixed c = false
  notBuiltin : ∀ n, c ≠ .builtin n
  behind : ∃ before, w.linearize c = before ++ Contract.valueValidationError.linearization ∧
    ∀ k ∈ before, w.isFixed k = false ∧ ∀ n ∉ errorNames, w.member? k n = none
  isAbstractKind : (w.info c).isAbstractKind = false
  isIncomplete : (w.info c).isIncomplete = false
  holdsAttributes : (w.info c).holdsAttributes = true

/-- The class of an error, under its name. -/
structure EmbodiesError (w : World) (e : ValueError) (c : ClassRef) : Prop where
  global : w.globals.lookup e.name = some (.cls c)
  name : (w.info c).name = e.name
  isError : IsError w c

section
variable {ns : List String} {cs : List ClassRef} {w w' : World} {c : ClassRef} {e : ValueError}

theorem IsError.of_agrees (h : IsError w c) (hc : w.Agrees w' c)
    (ha : ∀ k ∈ w.linearize c, w.isFixed k = false → w.Agrees w' k) : IsError w' c := by
  obtain ⟨hname, -, -, hline, habstract, hincomplete, hholds⟩ := ClassInfo.frame_eq hc.frame
  obtain ⟨before, hbefore, hmembers⟩ := h.behind
  refine ⟨hc.isFixed.trans h.there, h.notBuiltin, ⟨before, hc.linearize.trans hbefore, fun k hk => ?_⟩,
    habstract.trans h.isAbstractKind, hincomplete.trans h.isIncomplete, hholds.trans h.holdsAttributes⟩
  obtain ⟨hfixed, hnone⟩ := hmembers k hk
  have hk := ha k (hbefore ▸ List.mem_append_left _ hk) hfixed
  refine ⟨hk.isFixed.trans hfixed, fun n hn => (hk.member? n fun hmem => hn ?_).trans (hnone n hn)⟩
  exact List.mem_append_left _ hmem

theorem EmbodiesError.of_agrees (h : EmbodiesError w e c) (hc : w.Agrees w' c)
    (ha : ∀ k ∈ w.linearize c, w.isFixed k = false → w.Agrees w' k)
    (hglobal : w'.globals.lookup e.name = w.globals.lookup e.name) : EmbodiesError w' e c :=
  ⟨hglobal.trans h.global, (ClassInfo.frame_eq hc.frame).1.trans h.name, h.isError.of_agrees hc ha⟩

theorem IsError.not_mem_linearize {p : ClassPlan} {k : ClassRef} {vs : List (Variant × ClassRef)} (h : IsError w c)
    (hk : Embodies w p k vs) : k ∉ w.linearize c := by
  obtain ⟨before, hbefore, hmembers⟩ := h.behind
  obtain ⟨index, hindex⟩ := hk.made
  rw [hbefore, List.mem_append, not_or]
  refine ⟨fun hmem => ?_, fun hmem => ?_⟩
  · have hslots := hk.slots
    rw [(hmembers k hmem).2 _ (by decide)] at hslots
    cases hslots
  · have hall : ∀ k ∈ Contract.valueValidationError.linearization, ∀ index, k ≠ .made index := by decide
    exact hall k hmem index hindex

theorem isError_contract (h : w.Orderly) : IsError w (.contract .valueValidationError) := by
  obtain ⟨-, -, -, -, habstract, hincomplete, hholds⟩ := ClassInfo.frame_eq (h.info_contract .valueValidationError)
  exact ⟨h.isFixed_contract _, nofun, ⟨[], h.linearize_contract _, nofun⟩, habstract, hincomplete, hholds⟩

/-- A class with nothing but documentation that is made of the class of an error is one too. -/
theorem isError_of_defines {name doc : String} {b : ClassRef} {i i' : ClassInfo} {q : Making.Places} {line : List ClassRef}
    {missing : List String} {cells cells' : List Cell} (hg : Grounds w) (hl : w.Labelled) (hname : name ∉ [builtinsName, "__name__"])
    (hb : IsError w b) (hd : Defines w w' name [b] (startBindings name ++ [("__doc__", .constant doc)]) [] i i' q line missing
      cells cells') : IsError w' (.made w.classes.length) := by
  obtain ⟨before, hbefore, hmembers⟩ := hb.behind
  obtain ⟨tail, htail⟩ : ∃ tail, w.linearize b = b :: tail := by
    obtain ⟨x, hx, hxb, hi, -⟩ := (w.exists_entry_or_isFixed b).resolve_right (by rw [hb.there]; exact Bool.false_ne_true)
    obtain ⟨rest, hrest⟩ := hg.orderly.own x hx
    exact ⟨rest, by rw [World.linearize, hi, hrest, hxb]⟩
  have hline : line = w.linearize b := Bases.eq_of_linearize?_single (w := { w with cells }) htail hd.made.line_eq
  obtain ⟨-, -, -, -, habstract, hincomplete, hholds⟩ := ClassInfo.frame_eq hd.info
  have hkind : i.isAbstractKind = false := by
    rw [hd.made.isAbstractKind]
    change ((w.info b).isAbstractKind || false) = false
    rw [hb.isAbstractKind]
    rfl
  have hsteps := steps_of_defines hg hl hname hd
  refine ⟨hd.isFixed, (fun _ he => by cases he), ⟨.made w.classes.length :: before, ?_, fun k hk => ?_⟩,
    habstract.trans hkind, hincomplete.trans ?_, hholds.trans ?_⟩
  · rw [hd.linearize, hline, hbefore]
    rfl
  · rcases List.mem_cons.mp hk with rfl | hk
    · refine ⟨hd.isFixed, fun n hn => ?_⟩
      have hnames : n ∉ noteNames ++ Making.commonNames ∧ n ∉ ["__module__", "__qualname__", "__doc__"] := by
        simp only [errorNames, Making.commonNames, List.mem_append, List.mem_cons, List.not_mem_nil, or_false, not_or] at hn ⊢
        grind
      rw [hd.member?_of_none hnames.1 (fun hi => by rw [hkind] at hi; cases hi), if_neg List.not_mem_nil]
      exact lookup_eq_none_of_not_mem hnames.2
    · obtain ⟨hfixed, hnone⟩ := hmembers k hk
      have ha := hsteps.agrees k hfixed List.not_mem_nil
      refine ⟨ha.isFixed.trans hfixed, fun n hn => (ha.member? n fun hmem => hn ?_).trans (hnone n hn)⟩
      exact List.mem_append_left _ hmem
  · rw [hd.made.isIncomplete, hkind]
    rfl
  · rw [hd.made.holdsAttributes, hd.attributes, Bool.or_false]
    change ((w.info b).holdsAttributes || false) = true
    rw [hb.holdsAttributes]
    rfl

/-- The statement of an error makes a class that adds nothing to the one under the name of the contract. -/
theorem defineError_spec {fuel : Nat} {b : ClassRef} (hg : Grounds w) (hl : w.Labelled)
    (hname : e.name ∉ [builtinsName, "__name__"])
    (hbase : w.globals.lookup Contract.valueValidationError.text = some (.cls b)) (hb : IsError w b)
    (h : defineError (Request.answerWithin fuel) e w = (.ok (), w')) :
    Steps [e.name] [] w w' ∧ EmbodiesError w' e (.made w.classes.length) := by
  have hbases : [Contract.valueValidationError.text].mapM Run.global w = (.ok ([b].map .cls), w) := by
    have hglobal : Run.global Contract.valueValidationError.text w = (.ok (.cls b), w) := by
      rw [Run.global, world_bind, World.global?, hbase]
      rfl
    rw [List.mapM_cons, bind_of_ok hglobal]
    rfl
  let doc := "Raised when " ++ e.owner ++ ".validate rejects a value."
  have hadds : Adds (Request.answerWithin fuel) [] [.constant "__doc__" (.constant doc)] [("__doc__", .constant doc)] w
      { w with cells := w.cells ++ [] } := by
    rw [List.append_nil]
    exact adds_constant _ _ w
  have hasks : Making.AsksFor { w with cells := w.cells ++ [] } e.name (if [b].isEmpty then [.object] else [b])
      (startBindings e.name ++ [("__doc__", .constant doc)]) [] := by
    refine Making.asksFor_of_none rfl ?_
    change ((w.info b).holdsAttributes || false) = true
    rw [hb.holdsAttributes]
    rfl
  have hrefs : ∀ c ∈ [b], ∀ n, c ≠ .builtin n := by simpa using hb.notBuiltin
  obtain ⟨i, i', q, line, missing, cells', hd⟩ := defineClass_spec hg hrefs (by simpa using hb.there) hbases hadds (by simp)
    hasks (by simp [hookNames]) h
  have hd : Defines w w' e.name [b] (startBindings e.name ++ [("__doc__", .constant doc)]) [] i i' q line missing
      (w.cells ++ []) cells' := hd
  refine ⟨steps_of_defines hg hl hname hd, ?_, (ClassInfo.frame_eq hd.info).1.trans hd.made.name_eq,
    isError_of_defines hg hl hname hb hd⟩
  rw [hd.globals]
  exact lookup_bindMember_self _ _ _

end

/-! ## Assignments -/

section
variable {fuel : Nat} {w w' : World} {name key s : String} {c : ClassRef} {x : Value}

theorem global_of_lookup (h : w.globals.lookup name = some x) : Run.global name w = (.ok x, w) := by
  rw [Run.global, world_bind, World.global?, h]
  rfl

theorem assignTo_eq (hname : w.globals.lookup name = some (.cls c)) : assignTo (Request.answerWithin (fuel + 1)) name key x w =
    Assigning.assignClass (Request.answerWithin fuel) c key x w := by
  rw [assignTo, bind_of_ok (global_of_lookup hname), Answering.assign, bind_apply, Request.answerWithin_succ,
    Request.answerWith, bind_apply]
  rcases Assigning.assignClass (Request.answerWithin fuel) c key x w with ⟨_ | _, _⟩ <;> rfl

theorem assignTo_member_eq (hname : w.globals.lookup name = some (.cls c)) (hc : w.isFixed c = false)
    (hkey : key ∉ "__class__" :: "__bases__" :: "__name__" :: "__qualname__" :: "__abstractmethods__" :: Assigning.readOnly) :
    assignTo (Request.answerWithin (fuel + 1)) name key x w = (.ok (), w.adjust c (·.bind key x)) := by
  simp only [List.mem_cons, not_or] at hkey
  obtain ⟨hclass, hbases, hown, hqualname, habstract, hreadOnly⟩ := hkey
  rw [assignTo_eq hname, Assigning.assignClass, world_bind, hc, if_neg Bool.false_ne_true,
    if_neg (by simpa [Assigning.readOnly] using hreadOnly), if_neg hclass, if_neg hbases, if_neg hown, if_neg hqualname,
    if_neg habstract, change_apply]

theorem assignTo_member (hname : w.globals.lookup name = some (.cls c)) (hc : w.isFixed c = false)
    (hkey : key ∉ "__class__" :: "__bases__" :: "__name__" :: "__qualname__" :: "__abstractmethods__" :: Assigning.readOnly)
    (h : assignTo (Request.answerWithin (fuel + 1)) name key x w = (.ok (), w')) : w' = w.adjust c (·.bind key x) :=
  congrArg Prod.snd (h.symm.trans (assignTo_member_eq hname hc hkey))

theorem assignTo_name (hname : w.globals.lookup name = some (.cls c)) (hc : w.isFixed c = false)
    (h : assignTo (Request.answerWithin (fuel + 1)) name "__name__" (.constant s) w = (.ok (), w')) :
    w' = { w.adjust c fun i => { i with name := s } with kept := ((.cls c, "__name__"), .constant s) :: w.kept } := by
  rw [assignTo_eq hname, Assigning.assignClass, world_bind, hc, if_neg Bool.false_ne_true, if_neg (by decide),
    if_neg (by decide), if_neg (by decide), if_pos rfl] at h
  split at h
  · cases h
  · exact (congrArg Prod.snd h).symm

theorem assignTo_qualname (hname : w.globals.lookup name = some (.cls c)) (hc : w.isFixed c = false)
    (h : assignTo (Request.answerWithin (fuel + 1)) name "__qualname__" (.constant s) w = (.ok (), w')) :
    w' = { w.adjust c fun i => { i with qualname := s } with kept := ((.cls c, "__qualname__"), .constant s) :: w.kept } := by
  rw [assignTo_eq hname, Assigning.assignClass, world_bind, hc, if_neg Bool.false_ne_true, if_neg (by decide),
    if_neg (by decide), if_neg (by decide), if_neg (by decide), if_pos rfl] at h
  exact (congrArg Prod.snd h).symm

theorem steps_of_adjust {f : ClassInfo → ClassInfo} {kept : List ((Value × String) × Value)} (hg : Grounds w)
    (hc : ∃ index, c = .made index) (hf : ∀ i : ClassInfo, i.Stays (f i))
    (hl : ({ w.adjust c f with kept } : World).Labelled) : Steps [] [c] w { w.adjust c f with kept } := by
  have ho : (w.adjust c f).Orderly := hg.orderly.adjust hc hf
  refine ⟨⟨orderly_of_classes ho rfl rfl, hg.builtins, hg.name, hg.cutOff⟩, hl, fun k hk hne => ?_, fun n _ => rfl⟩
  have ha := World.agrees_adjust (w := w) (f := f) fun he : k = c => hne (List.mem_singleton.mpr he)
  exact ⟨ha.frame, ha.isFixed, ha.member?⟩

end

end Loading

end DomainModel.Live
