import DomainModel.Proofs.Live.Records

/-!
# Histories of records

What an instance of a record answers after any history of reads and assignments of its fields.
-/

namespace DomainModel.Live

open Run Loading Request

/-! ## Accesses -/

inductive Access
  | read (y : Field)
  | assign (y : Field) (x : Value)

namespace Access

def request (v : Value) : Access → Request
  | read y => .read v y.name
  | assign y x => .assign v y.name x

def field : Access → Field
  | read y => y
  | assign y _ => y

def effect (d : Declaration) (σ : String → Value) : Access → String → Value
  | read _ => σ
  | assign y x => if d.Assignable y then Function.update σ y.name x else σ

/-- What an instance holds after a history, the latest access last. -/
def latest (d : Declaration) (σ : String → Value) (history : List Access) : String → Value := history.foldl (effect d) σ

end Access

structure World.Leaves (w : World) (v : Value) (w' : World) : Prop where
  after : w.After w'
  cell? : w'.cell? v = w.cell? v

/-- A history of accesses to an instance. Between them, and while the number that is stored as a version is made a whole number,
all else may happen that leaves the instance alone. -/
inductive World.Leads (d : Declaration) (v : Value) (w : World) : List Access → World → Prop
  | nil : w.Leads d v [] w
  | other {history : List Access} {w₁ w₂ : World} (h : w.Leads d v history w₁) (hw : w₁.Leaves v w₂) : w.Leads d v history w₂
  | access {history : List Access} {w₁ w₂ : World} {a : Access} {r : Except Fault Value} {fuel : Nat} (h : w.Leads d v history w₁)
      (hy : a.field ∈ d.fields) (hf : 4 ≤ fuel) (hr : answerWithin fuel (a.request v) w₁ = (r, w₂))
      (hcounts : ∀ y, a = .read y → d.Counts y.name → w₁.Leaves v w₂) : w.Leads d v (history ++ [a]) w₂

/-- What an instance of a record answers where it holds `σ`. What is public and not claimed by a directive is assigned, and nothing
else changes; the other fields cannot be assigned. What is public, of an entity or claimed is read, a version as a whole number; the
other fields cannot be read. All of them are shown, behind the name of the record. -/
structure World.AnswersAs (w : World) (d : Declaration) (c : ClassRef) (v : Value) (σ : String → Value) : Prop where
  assign : ∀ y ∈ d.fields, ∀ x, ∀ fuel ≥ 3, answerWithin fuel (.assign v y.name x) w =
    if d.Assignable y then (.ok .nothing, w.setSlot v (c, slot y.name) x) else (.error .noAttribute, w)
  read : ∀ y ∈ d.fields, ¬d.Counts y.name → ∀ fuel ≥ 3, answerWithin fuel (.read v y.name) w =
    (if d.Readable y then .ok (σ y.name) else .error .noAttribute, w)
  version : ∀ y ∈ d.fields, d.Counts y.name → ∀ limit r w', r ≠ .error .noAttribute →
    (∀ fuel ≥ limit, answerWithin fuel (.call (.cls (.builtin "int")) [σ y.name] []) w = (r, w')) →
      (∀ x, r = .ok x → ∃ n k, x = .integer n k) ∧ ∀ fuel ≥ limit + 3, answerWithin fuel (.read v y.name) w = (r, w')
  shown : ∀ (limit : Nat) (t : String → String), (∀ y ∈ d.fields, w.Shows limit (σ y.name) (t y.name)) →
    w.Shows (limit + 4) v (d.name ++ "(" ++ ", ".intercalate (d.fields.map fun y => y.name ++ "=" ++ t y.name) ++ ")")

/-! ## What single accesses do -/

section
variable {w w' : World} {m : Module} {d : Declaration} {p : ClassPlan} {c k : ClassRef} {vs : List (Variant × ClassRef)}
  {y : Field} {v x : Value} {σ : String → Value} {fuel : Nat} {slots : List ((ClassRef × String) × Value)}

theorem World.Stores.of_leaves (h : w.Stores d c k v σ) (hl : w.Leaves v w') : w'.Stores d c k v σ := by
  obtain ⟨slots, hcell, hslots⟩ := h
  exact ⟨slots, hl.cell?.trans hcell, hslots⟩

theorem World.After.setSlot (h : w.After w') (v : Value) (place : ClassRef × String) (x : Value) :
    w.After (w'.setSlot v place x) := by
  unfold World.setSlot
  split
  · exact h.update _ _
  · exact h

theorem assign_property {f g : Function} {n : String} (hv : w.cell? v = some (.object k slots none))
    (hset : w.bound? k "__setattr__" = some (.native "object" "__setattr__"))
    (hn : w.bound? k n = some (.property g (some f))) (hf : f.body = .store y.name) (hi : isInternal y.name = false)
    (hplace : w.bound? k (slot y.name) = some (.slot c (slot y.name))) :
    answerWithin (fuel + 3) (.assign v n x) w = (.ok .nothing, w.setSlot v (c, slot y.name) x) := by
  cases v with
  | cell a =>
    have hstore : f.store (answerWithin (fuel + 1)) (.cell a) y.name x w = (.ok (), w.setSlot (.cell a) (c, slot y.name) x) := by
      rw [World.setSlot_eq hv]
      exact Function.store_spec hv hset hi hplace
    have hgiven : f.arguments? [.cell a, x] [] = some [.cell a, x] := by
      rw [Function.arguments?, hf]
      rfl
    have hcall : answerWithin (fuel + 2) (.call (.function f) [.cell a, x] []) w =
        (.ok .nothing, w.setSlot (.cell a) (c, slot y.name) x) := by
      rw [call_function hgiven]
      simp only [Function.run, hf]
      rw [bind_of_ok hstore]
      rfl
    rw [show k = w.classOf (.cell a) from (World.classOf_of_cell? hv).symm] at hset hn
    have hassign : Assigning.assign (answerWithin (fuel + 2)) (.cell a) n x w =
        (.ok (), w.setSlot (.cell a) (c, slot y.name) x) := by
      rw [Assigning.assign, world_bind]
      simp only [hset]
      rw [Assigning.assignInstance, world_bind]
      simp only [hn]
      rw [Answering.call, bind_of_ok hcall]
      rfl
    exact (bind_of_ok hassign).trans rfl
  | _ => cases hv

namespace World.Hosts

variable (h : w.Hosts m d p c vs) (hk : d.kind = .record) (hi : w.Instances d c k)
  (hs : w.Stores d c k v σ) (hy : y ∈ d.fields)
include h hk hi hs hy

theorem assign_field (hlost : ¬d.Loses) (x : Value) : answerWithin (fuel + 3) (.assign v y.name x) w =
    if d.Assignable y then (.ok .nothing, w.setSlot v (c, slot y.name) x) else (.error .noAttribute, w) := by
  obtain ⟨slots, hcell, -⟩ := hs
  have hset := h.instances_setattr hi
  have hname := h.instances_bound?_field hi hy
  split
  · next ha =>
    obtain ⟨g, f, hproperty, -, hf⟩ := h.bound?_assignable hk hy ha
    exact assign_property hcell hset (hname.trans hproperty) hf (h.isInternal_field hy) (h.instances_place hk hi hlost hy)
  · next ha =>
    by_cases hr : d.Readable y
    · obtain ⟨g, hproperty, -⟩ := h.bound?_claimed hk hy hr ha
      exact assign_accessor hcell hset (hname.trans hproperty)
    · have hvalue : ¬d.Carries .valueObject := fun hvalue => hr (.inr (.inr (.inr ⟨hvalue, h.name_of_value hvalue hy⟩)))
      obtain rfl : k = c := by
        unfold World.Instances at hi
        rwa [if_neg hvalue] at hi
      refine assign_unheld hcell hset (fun b hb => ?_) h.embodies.holdsAttributes
      rw [h.bound?_unreadable hk hy hr] at hb
      cases hb

omit hs in
theorem exists_property (hr : d.Readable y) : ∃ g s, w.bound? k y.name = some (.property g s) ∧
    g.body = if d.Counts y.name then .count "version" else .stored y.name := by
  rw [h.instances_bound?_field hi hy]
  by_cases ha : d.Assignable y
  · obtain ⟨g, s, hproperty, hg, -⟩ := h.bound?_assignable hk hy ha
    refine ⟨g, _, hproperty, ?_⟩
    have hc : ¬d.Counts y.name := by
      rintro ⟨hname, he | he⟩
      · obtain ⟨_, roles, fs, ho⟩ := h.clear.outline
        have hexposed := ha.1
        rw [ho.isExposed_of_entity h.clear.own he hy] at hexposed
        cases hexposed
      · exact ha.2 (.inl ⟨he, by rw [hname]; decide⟩)
    rw [if_neg hc, hg]
  · obtain ⟨g, hproperty, hg⟩ := h.bound?_claimed hk hy hr ha
    exact ⟨g, _, hproperty, hg⟩

theorem read_field (hlost : ¬d.Loses) (hr : d.Readable y) (hc : ¬d.Counts y.name) :
    answerWithin (fuel + 3) (.read v y.name) w = (.ok (σ y.name), w) := by
  obtain ⟨g, s, hproperty, hg⟩ := h.exists_property hk hi hy hr
  obtain ⟨slots, hcell, hslots⟩ := hs
  rw [if_neg hc] at hg
  rw [read_stored h.orderly hcell (h.isInternal_field hy) hproperty hg (h.instances_place hk hi hlost hy), hslots y hy]
  rfl

theorem read_version (hlost : ¬d.Loses) (hc : d.Counts y.name) {r : Except Fault Value}
    (hint : answerWithin (fuel + 1) (.call (.cls (.builtin "int")) [σ y.name] []) w = (r, w'))
    (h' : r = .error .noAttribute → w'.Orderly) : answerWithin (fuel + 3) (.read v y.name) w = (r, w') := by
  have hevent : d.Carries .entity ∨ (d.Carries .domainEvent ∧ y.name ∈ ["occurred", "id", "aggregate_id", "version"]) :=
    hc.2.imp_right fun he => ⟨he, by rw [hc.1]; decide⟩
  have hr : d.Readable y := hevent.elim (fun he => .inr (.inl he)) fun he => .inr (.inr (.inl he))
  obtain ⟨g, s, hproperty, hg⟩ := h.exists_property hk hi hy hr
  obtain ⟨slots, hcell, hslots⟩ := hs
  rw [if_pos hc] at hg
  have hplace := h.instances_place hk hi hlost hy
  have hslot := hslots y hy
  have hinternal := h.isInternal_field hy
  rw [hc.1] at hplace hslot hint hinternal
  exact read_count h.orderly hcell hinternal hproperty hg hplace hslot (h.global_int (h.mem_supplied hy hevent) hc.1) hint h'

theorem read_unreadable (hr : ¬d.Readable y) : answerWithin (fuel + 1) (.read v y.name) w = (.error .noAttribute, w) := by
  obtain ⟨slots, hcell, -⟩ := hs
  have hclass : w.classOf v = k := World.classOf_of_cell? hcell
  refine read_none h.orderly hcell ?_ ?_
  · rw [hclass, h.instances_bound?_field hi hy]
    exact h.bound?_unreadable hk hy hr
  · cases v with
    | cell a =>
      have hattributes : w.attributes (.cell a) = [] := by simp only [World.attributes, hcell]
      change World.keyed? (w.attributes (.cell a)) _ = none
      rw [hattributes]
      rfl
    | _ => cases hcell

omit hy in
theorem shows_fields (hlost : ¬d.Loses) {limit : Nat} {t : String → String}
    (ht : ∀ y ∈ d.fields, w.Shows limit (σ y.name) (t y.name)) :
    w.Shows (limit + 4) v (d.name ++ "(" ++ ", ".intercalate (d.fields.map fun y => y.name ++ "=" ++ t y.name) ++ ")") := by
  intro fuel hf
  obtain ⟨e, rfl⟩ := Nat.exists_eq_add_of_le' hf
  obtain ⟨f, hrepr, hbody⟩ := h.instances_repr hk hi
  obtain ⟨slots, hcell, hslots⟩ := hs
  have hgiven : f.arguments? [v] [] = some [v] := by
    rw [Function.arguments?, hbody]
    rfl
  have hpart : ∀ y ∈ d.fields, w.Yields (do
      return y.name ++ "=" ++ (← (answerWithin (e + limit + 1)).shown (← f.stored (answerWithin (e + limit + 1)) v y.name)))
      fun a _ => a = y.name ++ "=" ++ t y.name := by
    intro y hy
    have hstored : ∀ w', w.Grows w' → f.stored (answerWithin (e + limit + 1)) v y.name w' = (.ok (σ y.name), w') := by
      intro w' hg
      have hplace := (h.after hg.toAfter).instances_place hk (hi.after h.embodies.there hg.toAfter) hlost hy
      rw [Function.stored_spec hg.orderly (hg.cell? hcell) (h.isInternal_field hy) hplace, hslots y hy]
      rfl
    refine .bind_eq hstored (((ht y hy).shown (by omega)).bind fun s w' _ hs => ?_)
    exact .pure fun _ _ => by rw [hs]
  refine yields_repr hcell hrepr hgiven ?_
  simp only [Function.run, hbody]
  have hparts := World.Yields.mapM hpart
  refine World.Yields.bind (P := fun parts _ => parts = d.fields.map fun y => y.name ++ "=" ++ t y.name) ?_ fun parts w' _ hparts => ?_
  · refine hparts.congr fun w' _ => ?_
    rw [List.mapM_map]
    rfl
  · rw [hparts]
    exact .text _

omit hy in
theorem answersAs (hlost : ¬d.Loses) : w.AnswersAs d c v σ where
  assign y hy x fuel hf := by
    obtain ⟨e, rfl⟩ := Nat.exists_eq_add_of_le' hf
    exact h.assign_field hk hi hs hy hlost x
  read y hy hcounts fuel hf := by
    obtain ⟨e, rfl⟩ := Nat.exists_eq_add_of_le' hf
    split
    · next hreadable => exact h.read_field hk hi hs hy hlost hreadable hcounts
    · next hreadable => exact h.read_unreadable hk hi hs hy hreadable
  version y hy hcounts limit r w' hr hint := by
    refine ⟨fun x hx => ?_, fun fuel hf => ?_⟩
    · exact gives_toInteger _ _ _ _ _ (hx ▸ hint (limit + 1) (Nat.le_succ _))
    · obtain ⟨e, rfl⟩ := Nat.exists_eq_add_of_le' hf
      exact h.read_version hk hi hs hy hlost hcounts (hint (e + limit + 1) (by omega)) fun he => absurd he hr
  shown limit t ht := h.shows_fields hk hi hs hlost ht

end World.Hosts

/-! ## What a history leads to -/

theorem Access.latest_append (d : Declaration) (σ : String → Value) (history : List Access) (a : Access) :
    latest d σ (history ++ [a]) = effect d (latest d σ history) a := by
  rw [latest, List.foldl_append]
  rfl

/-- One access has its effect on what is stored. -/
theorem World.Hosts.stores_access (h : w.Hosts m d p c vs) (hk : d.kind = .record) (hi : w.Instances d c k) (hlost : ¬d.Loses)
    (hs : w.Stores d c k v σ) {a : Access} (hy : a.field ∈ d.fields) {r : Except Fault Value} (hf : 4 ≤ fuel)
    (hr : answerWithin fuel (a.request v) w = (r, w')) (hcounts : ∀ y, a = .read y → d.Counts y.name → w.Leaves v w') :
    w.After w' ∧ w'.Stores d c k v (a.effect d σ) := by
  obtain ⟨e, rfl⟩ := Nat.exists_eq_add_of_le' hf
  have hrefl : w.After w := (World.Grows.refl h.orderly h.labelled).toAfter
  cases a with
  | read y =>
    by_cases hc : d.Counts y.name
    · exact ⟨(hcounts y rfl hc).after, hs.of_leaves (hcounts y rfl hc)⟩
    · obtain rfl : w = w' := by
        by_cases hreadable : d.Readable y
        · exact congrArg Prod.snd ((h.read_field hk hi hs hy hlost hreadable hc).symm.trans hr)
        · exact congrArg Prod.snd ((h.read_unreadable hk hi hs hy hreadable).symm.trans hr)
      exact ⟨hrefl, hs⟩
  | assign y x =>
    have hassign := (h.assign_field hk hi hs (y := y) hy hlost x).symm.trans hr
    rw [Access.effect]
    split at hassign
    · next ha =>
      obtain rfl : _ = w' := congrArg Prod.snd hassign
      rw [if_pos ha]
      exact ⟨hrefl.setSlot v _ x, hs.setSlot x⟩
    · next ha =>
      obtain rfl : w = w' := congrArg Prod.snd hassign
      rw [if_neg ha]
      exact ⟨hrefl, hs⟩

theorem World.Leads.stores {history : List Access} (hl : w.Leads d v history w') (h : w.Hosts m d p c vs) (hk : d.kind = .record)
    (hi : w.Instances d c k) (hlost : ¬d.Loses) (hs : w.Stores d c k v σ) :
    w.After w' ∧ w'.Stores d c k v (Access.latest d σ history) := by
  induction hl with
  | nil => exact ⟨(World.Grows.refl h.orderly h.labelled).toAfter, hs⟩
  | other _ hw ih => exact ⟨ih.1.trans hw.after, ih.2.of_leaves hw⟩
  | access _ hy hf hr hcounts ih =>
    have hstep := (h.after ih.1).stores_access hk (hi.after h.embodies.there ih.1) hlost ih.2 hy hf hr hcounts
    rw [Access.latest_append]
    exact ⟨ih.1.trans hstep.1, hstep.2⟩

end

/-! ## A file with a record -/

namespace Notes

def text : String := "@domain_event record Noted \x7b occurred: uint64 id: uuid aggregate_id: uuid version: int8 pub note: string \x7d"

def note : Field := ⟨"note", ⟨"string", []⟩, .exposed, [], some ⟨1, 93, none⟩⟩

def noted : Declaration :=
  { kind := .record, name := "Noted", directives := [⟨"domain_event", [], some ⟨1, 2, none⟩⟩], location := some ⟨1, 22, none⟩
    fields := [⟨"occurred", ⟨"uint64", []⟩, .hidden, [], some ⟨1, 30, none⟩⟩, ⟨"id", ⟨"uuid", []⟩, .hidden, [], some ⟨1, 47, none⟩⟩,
      ⟨"aggregate_id", ⟨"uuid", []⟩, .hidden, [], some ⟨1, 56, none⟩⟩, ⟨"version", ⟨"int8", []⟩, .hidden, [], some ⟨1, 75, none⟩⟩,
      note] }

def plan : Module :=
  { contracts := defaultContracts, synonyms := []
    classes :=
      [{ name := "Noted", bases := [.domainEvent], docs := [], layout := .record noted.fields [note], errors := [], events := []
         supplied := [.accessor "occurred" "int" (.stored "occurred") [], .accessor "id" "UUID" (.stored "id") [],
           .accessor "aggregate_id" "UUID" (.stored "aggregate_id") [], .accessor "version" "int" (.count "version") []] }] }

end Notes

/-! ## State -/

variable {text : String} {file : Option String} {ds : List Declaration} {contracts : String} {m : Module} {w₀ : World}

end DomainModel.Live
