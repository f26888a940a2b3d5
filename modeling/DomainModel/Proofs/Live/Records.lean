import Mathlib.Logic.Function.Basic
import DomainModel.Proofs.Live.Fields
import DomainModel.Proofs.Live.Keyed

/-!
# Records

How an instance of a record is made, and what it holds after any reads and assignments of its fields: what was assigned last,
to the fields that can be assigned, and what it was made with otherwise.
-/

namespace DomainModel.Live

open Run Loading Request

/-! ## Classes of instances -/

/-- The names that a class keeps that supplies the rule of a value object. -/
def valueNames : List String :=
  ["__new__", "__setattr__", "__init__", "__repr__", "__str__", "__eq__", "__hash__", "clone", "__copy__", "try_from", "value",
   "_value"]

/-- A class supplies the rule that a value object lacks, and nothing that the value object needs itself. -/
structure World.Supplies (w : World) (k c : ClassRef) : Prop where
  above : w.Inherits valueNames k c
  complete : (w.info k).isIncomplete = false

/-- A class has instances of a record: it is that of the record, or supplies the rule of a value object. -/
def World.Instances (w : World) (d : Declaration) (c k : ClassRef) : Prop :=
  if d.Carries .valueObject then w.Supplies k c else k = c

section
variable {w w' : World} {m : Module} {d : Declaration} {p : ClassPlan} {c k : ClassRef} {vs : List (Variant × ClassRef)}
  {n : String} {y : Field}

theorem World.Supplies.after (h : w.Supplies k c) (hc : w.isFixed c = false) (ha : w.After w') : w'.Supplies k c := by
  refine ⟨h.above.after hc ha, ?_⟩
  obtain ⟨names, -, -, habove⟩ := h.above
  obtain ⟨-, -, -, -, -, hincomplete, -⟩ := ClassInfo.frame_eq (ha.agrees k habove.there).frame
  exact hincomplete.trans h.complete

theorem World.Instances.after (h : w.Instances d c k) (hc : w.isFixed c = false) (ha : w.After w') : w'.Instances d c k := by
  unfold World.Instances at h ⊢
  split
  · next hr =>
    rw [if_pos hr] at h
    exact h.after hc ha
  · next hr => rwa [if_neg hr] at h

theorem World.Instances.bound? (h : w.Instances d c k) (hn : d.Carries .valueObject → n ∈ valueNames) :
    w.bound? k n = w.bound? c n := by
  unfold World.Instances at h
  split at h
  · next hr => exact h.above.bound? (hn hr)
  · rw [h]

namespace World.Hosts

variable (h : w.Hosts m d p c vs) (hk : d.kind = .record) (hi : w.Instances d c k)
include h

theorem name_of_value (hr : d.Carries .valueObject) (hy : y ∈ d.fields) : y.name = "value" := by
  obtain ⟨e, roles, fs, ho⟩ := h.clear.outline
  exact ho.name_of_value h.clear.own hr hy

include hi

theorem instances_bound?_field (hy : y ∈ d.fields) : w.bound? k y.name = w.bound? c y.name := by
  refine hi.bound? fun hr => ?_
  rw [h.name_of_value hr hy]
  decide

theorem instances_bound?_slot (hy : y ∈ d.fields) : w.bound? k (slot y.name) = w.bound? c (slot y.name) := by
  refine hi.bound? fun hr => ?_
  rw [h.name_of_value hr hy]
  decide

theorem instances_setattr : w.bound? k "__setattr__" = some (.native "object" "__setattr__") := by
  rw [hi.bound? fun _ => by decide]
  exact h.bound?_root (by decide)

theorem instances_instantiable {f : Function} (hf : w.bound? k "__init__" = some (.function f)) : w.Instantiable k f := by
  unfold World.Instances at hi
  split at hi
  · obtain ⟨names, -, hkept, habove⟩ := hi.above
    have hroots : ∀ n ∈ Embodies.rootNames, n ∈ valueNames := by decide
    exact h.instantiable habove (fun n hn => hkept n (hroots n hn)) hf hi.complete
  · next hr =>
    subst hi
    refine h.instantiable h.above (fun _ _ => List.not_mem_nil) hf (h.embodies.isIncomplete fun hmem => hr ?_)
    obtain ⟨e, roles, fs, ho⟩ := h.clear.outline
    exact ho.carries_valueObject hmem

include hk

theorem instances_init : ∃ f, w.bound? k "__init__" = some (.function f) ∧ f.body = .recordInit (d.fields.map (·.name)) := by
  obtain ⟨e, roles, fs, ho⟩ := h.clear.outline
  obtain ⟨assignable, hlayout⟩ := ho.layout_of_record h.clear.own hk
  rw [hi.bound? fun _ => by decide]
  refine ⟨_, h.bound?_layout (x := .function (function p.name "__init__" (.recordInit (d.fields.map (·.name)))
    (d.fields.map fun f => (f.name, f.type.annotation)) "None")) ?_ (by decide), rfl⟩
  rw [hlayout]
  simp [layoutBindings]

theorem instances_repr : ∃ f, w.bound? k "__repr__" = some (.function f) ∧
    f.body = .recordRepr d.name (d.fields.map (·.name)) := by
  obtain ⟨e, roles, fs, ho⟩ := h.clear.outline
  obtain ⟨assignable, hlayout⟩ := ho.layout_of_record h.clear.own hk
  rw [hi.bound? fun _ => by decide]
  refine ⟨_, h.bound?_layout (x := .function (function p.name "__repr__" (.recordRepr d.name (d.fields.map (·.name))) [] "str")) ?_
    (by decide), rfl⟩
  rw [hlayout, h.clear.name_eq]
  simp [layoutBindings]

end World.Hosts

end

/-! ## What an instance stores -/

def given (named : List (String × Value)) (n : String) : Value := (named.lookup n).getD .nothing

/-- An instance stores a value for each field of a record, where the class `c` has a place for it. -/
def World.Stores (w : World) (d : Declaration) (c k : ClassRef) (v : Value) (σ : String → Value) : Prop :=
  ∃ slots, w.cell? v = some (.object k slots none) ∧ ∀ y ∈ d.fields, slots.lookup (c, slot y.name) = some (σ y.name)

section
variable {w w' w₀ : World} {m : Module} {d : Declaration} {p : ClassPlan} {c k : ClassRef} {vs : List (Variant × ClassRef)}
  {n : String} {y : Field} {f : Function} {fuel a : Nat} {x v : Value} {σ : String → Value}
  {slots : List ((ClassRef × String) × Value)}

theorem World.Stores.setSlot (h : w.Stores d c k v σ) (x : Value) :
    (w.setSlot v (c, slot n) x).Stores d c k v (Function.update σ n x) := by
  obtain ⟨slots, hcell, hslots⟩ := h
  cases v with
  | cell a =>
    rw [World.setSlot_eq hcell]
    refine ⟨_, World.cell?_update (List.getElem?_eq_some_iff.mp hcell).1 _, fun y hy => ?_⟩
    rw [World.lookup_putSlot]
    by_cases hn : y.name = n
    · rw [hn, if_pos rfl, Function.update_self]
    · rw [if_neg fun he => hn (slot_injective (congrArg Prod.snd he)), Function.update_of_ne hn, hslots y hy]
  | _ => cases hcell

theorem assign_unheld (hv : w.cell? v = some (.object k slots none))
    (hset : w.bound? k "__setattr__" = some (.native "object" "__setattr__"))
    (hb : ∀ b, w.bound? k n = some b → ∃ cls s, b = .described cls s) (hholds : (w.info k).holdsAttributes = false) :
    answerWithin (fuel + 1) (.assign v n x) w = (.error .noAttribute, w) := by
  rw [show k = w.classOf v from (World.classOf_of_cell? hv).symm] at hset hb hholds
  have hown : Assigning.assignOwn v n x w = (.error .noAttribute, w) := by
    rw [Assigning.assignOwn, world_bind, hholds]
    rfl
  have hassign : Assigning.assign (answerWithin fuel) v n x w = (.error .noAttribute, w) := by
    rw [Assigning.assign, world_bind]
    simp only [hset]
    rw [Assigning.assignInstance, world_bind]
    cases hbound : w.bound? (w.classOf v) n with
    | none => exact hown
    | some b =>
      obtain ⟨cls, s, rfl⟩ := hb b hbound
      exact hown
  have hrequest : answerWithin (fuel + 1) (.assign v n x) =
      (Assigning.assign (answerWithin fuel) v n x >>= fun _ => pure .nothing : Run Value) := by
    cases v <;> first | exact absurd rfl (ne_cls_of_cell? hv _) | rfl
  rw [hrequest, bind_of_error hassign]

theorem slot_not_mem_noteNames (hi : isInternal n = false) : slot n ∉ noteNames :=
  not_mem_of_eq_false (isSpecial_slot hi) (by decide)

theorem Function.store_spec (hcell : w.cell? (.cell a) = some (.object k slots none))
    (hset : w.bound? k "__setattr__" = some (.native "object" "__setattr__")) (hi : isInternal n = false)
    (hplace : w.bound? k (slot n) = some (.slot c (slot n))) : f.store (answerWithin (fuel + 1)) (.cell a) n x w =
      (.ok (), w.update a (.object k (World.putSlot (c, slot n) x slots) none)) := by
  have hassign : answerWithin (fuel + 1) (.assign (.cell a) (slot n) x) w =
      (.ok .nothing, w.setSlot (.cell a) (c, slot n) x) := assign_slot hcell hset hplace
  rw [Function.store, Function.spell, spell_slot hi, Answering.assign, bind_of_ok hassign, World.setSlot_eq hcell]
  rfl

theorem initRecord_spec {names : List String} (hg : w₀.Grows w) (ha : w₀.cells.length ≤ a)
    (hcell : w.cell? (.cell a) = some (.object k slots none))
    (hset : w₀.bound? k "__setattr__" = some (.native "object" "__setattr__"))
    (hplaces : ∀ n ∈ names, isInternal n = false ∧ w₀.bound? k (slot n) = some (.slot c (slot n)))
    (hn : names.Nodup) : ∃ w' slots', f.initRecord (answerWithin (fuel + 1)) (.cell a) names (names.map σ) w = (.ok .nothing, w') ∧
      w₀.Grows w' ∧ w'.cell? (.cell a) = some (.object k slots' none) ∧
      (∀ n ∈ names, slots'.lookup (c, slot n) = some (σ n)) ∧
      ∀ n ∉ names, slots'.lookup (c, slot n) = slots.lookup (c, slot n) := by
  induction names generalizing w slots with
  | nil => exact ⟨w, slots, rfl, hg, hcell, fun _ hn => absurd hn List.not_mem_nil, fun _ _ => rfl⟩
  | cons n names ih =>
    obtain ⟨hnot, hn⟩ := List.nodup_cons.mp hn
    obtain ⟨hi, hplace⟩ := hplaces n List.mem_cons_self
    have hstore : f.store (answerWithin (fuel + 1)) (.cell a) n (σ n) w =
        (.ok (), w.update a (.object k (World.putSlot (c, slot n) (σ n) slots) none)) :=
      Function.store_spec hcell ((hg.bound? k (by decide)).trans hset) hi ((hg.bound? k (slot_not_mem_noteNames hi)).trans hplace)
    have hcell' := World.cell?_update (List.getElem?_eq_some_iff.mp hcell).1 (.object k (World.putSlot (c, slot n) (σ n) slots) none)
    obtain ⟨w', slots', hrun, hg', hcell', hstored, hframe⟩ := ih (hg.update ha _) hcell'
      (fun m hm => hplaces m (List.mem_cons_of_mem _ hm)) hn
    refine ⟨w', slots', ?_, hg', hcell', fun m hm => ?_, fun m hm => ?_⟩
    · rw [List.map_cons, Function.initRecord, bind_of_ok hstore, hrun]
    · rcases List.mem_cons.mp hm with rfl | hm
      · rw [hframe m hnot, World.lookup_putSlot, if_pos rfl]
      · exact hstored m hm
    · rw [List.mem_cons, not_or] at hm
      rw [hframe m hm.2, World.lookup_putSlot, if_neg fun he => hm.1 (slot_injective (congrArg Prod.snd he))]

theorem initRecord_of_lost {names : List String} (hg : w₀.Grows w) (ha : w₀.cells.length ≤ a)
    (hcell : w.cell? (.cell a) = some (.object k slots none))
    (hset : w₀.bound? k "__setattr__" = some (.native "object" "__setattr__"))
    (hplaces : ∀ n ∈ names, isInternal n = false ∧ (n ≠ "abc_impl" → w₀.bound? k (slot n) = some (.slot c (slot n))))
    (hregistry : w₀.bound? k "_abc_impl" = some Standard.registry) (hholds : (w₀.info k).holdsAttributes = false)
    (hlost : "abc_impl" ∈ names) :
    ∃ w', f.initRecord (answerWithin (fuel + 1)) (.cell a) names (names.map σ) w = (.error .noAttribute, w') := by
  induction names generalizing w slots with
  | nil => cases hlost
  | cons n names ih =>
    obtain ⟨hi, hplace⟩ := hplaces n List.mem_cons_self
    have hset' := (hg.bound? k (by decide)).trans hset
    rw [List.map_cons, Function.initRecord]
    by_cases hn : n = "abc_impl"
    · have hassign : answerWithin (fuel + 1) (.assign (.cell a) (slot "abc_impl") (σ "abc_impl")) w = (.error .noAttribute, w) := by
        refine assign_unheld hcell hset' (fun b hb => ?_) ?_
        · rw [show slot "abc_impl" = "_abc_impl" by decide, hg.bound? k (by decide), hregistry] at hb
          exact ⟨_, _, (Option.some.inj hb).symm⟩
        · rw [(ClassInfo.frame_eq (hg.agrees_all k).frame).2.2.2.2.2.2, hholds]
      refine ⟨w, bind_of_error ?_⟩
      rw [Function.store, Function.spell, spell_slot hi, hn]
      exact bind_of_error hassign
    · have hstore : f.store (answerWithin (fuel + 1)) (.cell a) n (σ n) w =
          (.ok (), w.update a (.object k (World.putSlot (c, slot n) (σ n) slots) none)) :=
        Function.store_spec hcell hset' hi ((hg.bound? k (slot_not_mem_noteNames hi)).trans (hplace hn))
      have hcell' := World.cell?_update (List.getElem?_eq_some_iff.mp hcell).1
        (.object k (World.putSlot (c, slot n) (σ n) slots) none)
      rw [bind_of_ok hstore]
      refine ih (hg.update ha _) hcell' (fun m hm => hplaces m (List.mem_cons_of_mem _ hm)) ?_
      exact (List.mem_cons.mp hlost).resolve_left (Ne.symm hn)

theorem mapM_of_some {α β : Type} {f : α → Option β} {g : α → β} {xs : List α} (h : ∀ x ∈ xs, f x = some (g x)) :
    xs.mapM f = some (xs.map g) := by
  induction xs with
  | nil => rfl
  | cons x xs ih =>
    rw [List.mapM_cons, h x List.mem_cons_self, ih fun y hy => h y (List.mem_cons_of_mem _ hy)]
    rfl

theorem arguments?_recordInit {names : List String} {named : List (String × Value)} (hf : f.body = .recordInit names)
    (hi : ∀ n ∈ names, isInternal n = false) (hnamed : (named.map (·.1)).Perm names) :
    f.arguments? [v] named = some (v :: names.map (given named)) := by
  have hspell : names.map f.spell = names := by
    refine (List.map_congr_left fun n hn => ?_).trans (List.map_id names)
    exact spell_eq_self (hi n hn)
  have hrest : ((f.body.parameters.drop [v].length ++ f.body.namedParameters).map f.spell) = names := by
    rw [hf]
    exact hspell
  have hvalues : (names.mapM fun n => (named.lookup n).or (f.body.optional.lookup n)) = some (names.map (given named)) := by
    refine mapM_of_some fun n hn => ?_
    obtain ⟨x, hx, rfl⟩ := List.mem_map.mp (hnamed.mem_iff.mpr hn)
    obtain ⟨b, hb⟩ := Option.isSome_iff_exists.mp (List.lookup_isSome_iff.mpr ⟨x, hx, beq_self_eq_true _⟩)
    rw [given, hb]
    rfl
  have hcondition : [v].length ≤ f.body.parameters.length ∧ (named.all fun e => e.1 ∈ names) = true := by
    refine ⟨by rw [hf]; exact Nat.le.refl, List.all_eq_true.mpr fun e he => decide_eq_true ?_⟩
    exact hnamed.mem_iff.mp (List.mem_map_of_mem he)
  rw [Function.arguments?]
  simp only [hrest]
  rw [if_pos hcondition, hvalues]
  rfl

namespace World.Hosts

variable (h : w.Hosts m d p c vs) (hk : d.kind = .record) (hi : w.Instances d c k)
include h

theorem slot_ne_registry (hlost : ¬d.Loses) (hy : y ∈ d.fields) (hb : p.bases ≠ []) : slot y.name ≠ Standard.registryName := by
  obtain ⟨e, roles, fs, ho⟩ := h.clear.outline
  intro he
  have hname : y.name = "abc_impl" := slot_injective (he.trans (by decide))
  exact hlost ⟨ho.bases_eq ▸ hb, hname ▸ List.mem_map_of_mem hy⟩

include hk hi

theorem instances_place (hlost : ¬d.Loses) (hy : y ∈ d.fields) : w.bound? k (slot y.name) = some (.slot c (slot y.name)) := by
  rw [h.instances_bound?_slot hi hy]
  exact h.bound?_field hk hy (h.slot_ne_registry hlost hy)

theorem construct_of_initRecord {named : List (String × Value)} (hnamed : (named.map (·.1)).Perm (d.fields.map (·.name))) :
    ∃ f : Function, ∀ (fuel : Nat) (r : Except Fault Value) (w' : World), f.initRecord (answerWithin (fuel + 1)) (.cell w.cells.length) (d.fields.map (·.name))
        ((d.fields.map (·.name)).map (given named)) (w.begun k f) = (r, w') → (∀ x, r = .ok x → x = .nothing) →
      answerWithin (fuel + 4) (.call (.cls k) [] named) w = (r.map fun _ => .cell w.cells.length, w') := by
  obtain ⟨f, hf, hbody⟩ := h.instances_init hk hi
  have hinternal : ∀ n ∈ d.fields.map (·.name), isInternal n = false := fun n hn =>
    h.clear.internal _ (Declaration.mem_declared_of_field hn)
  have harguments := arguments?_recordInit (v := .cell w.cells.length) hbody hinternal hnamed
  refine ⟨f, fun fuel r w' hinit hr => construct_spec (h.instances_instantiable hi hf) harguments ?_ hr⟩
  simp only [Function.run, hbody]
  exact hinit

omit hk hi in
theorem bound?_registry (hlost : d.Loses) : w.bound? c Standard.registryName = some Standard.registry := by
  obtain ⟨e, roles, fs, ho⟩ := h.clear.outline
  have hbases : p.bases ≠ [] := ho.bases_eq ▸ hlost.1
  refine h.orderly.bound?_registry ?_
  rw [h.embodies.isAbstractKind]
  cases hb : p.bases with
  | nil => exact absurd hb hbases
  | cons => rfl

theorem construct_of_loses {named : List (String × Value)} (hnamed : (named.map (·.1)).Perm (d.fields.map (·.name)))
    (hlost : d.Loses) : ∃ w', answerWithin (fuel + 4) (.call (.cls k) [] named) w = (.error .noAttribute, w') := by
  have hvalue : ¬d.Carries .valueObject := fun hr => by
    obtain ⟨y, hy, hname⟩ := List.mem_map.mp hlost.2
    rw [h.name_of_value hr hy] at hname
    exact absurd hname (by decide)
  obtain ⟨f, hconstruct⟩ := h.construct_of_initRecord hk hi hnamed
  obtain rfl : k = c := by
    unfold World.Instances at hi
    rwa [if_neg hvalue] at hi
  have hplaces : ∀ n ∈ d.fields.map (·.name), isInternal n = false ∧
      (n ≠ "abc_impl" → w.bound? k (slot n) = some (.slot k (slot n))) := by
    intro n hn
    obtain ⟨y, hy, rfl⟩ := List.mem_map.mp hn
    refine ⟨h.isInternal_field hy, fun hne => h.bound?_field hk hy fun _ he => hne ?_⟩
    exact slot_injective (he.trans (by decide))
  obtain ⟨w', hw'⟩ := initRecord_of_lost (World.grows_begun h.orderly h.labelled k f) Nat.le.refl (World.cell?_begun w k f)
    (h.instances_setattr (by unfold World.Instances; rw [if_neg hvalue])) hplaces (h.bound?_registry hlost)
    h.embodies.holdsAttributes hlost.2
  exact ⟨w', hconstruct fuel _ _ hw' fun x hx => by cases hx⟩

/-- An instance of a record is made of one value for each field. -/
theorem construct_record {named : List (String × Value)} (hnamed : (named.map (·.1)).Perm (d.fields.map (·.name)))
    (hlost : ¬d.Loses) : ∃ w', answerWithin (fuel + 4) (.call (.cls k) [] named) w = (.ok (.cell w.cells.length), w') ∧
      w.Grows w' ∧ w'.Stores d c k (.cell w.cells.length) (given named) := by
  obtain ⟨f, hconstruct⟩ := h.construct_of_initRecord hk hi hnamed
  have hplaces : ∀ n ∈ d.fields.map (·.name), isInternal n = false ∧ w.bound? k (slot n) = some (.slot c (slot n)) := by
    intro n hn
    obtain ⟨y, hy, rfl⟩ := List.mem_map.mp hn
    exact ⟨h.isInternal_field hy, h.instances_place hk hi hlost hy⟩
  obtain ⟨w', slots, hw', hg, hcell, hstored, -⟩ := initRecord_spec (World.grows_begun h.orderly h.labelled k f) Nat.le.refl
    (World.cell?_begun w k f) (h.instances_setattr hi) hplaces h.clear.named.distinct_fields
  exact ⟨w', hconstruct fuel _ _ hw' fun x hx => (Except.ok.inj hx).symm, hg, slots, hcell,
    fun y hy => hstored _ (List.mem_map_of_mem hy)⟩

end World.Hosts

end

end DomainModel.Live
