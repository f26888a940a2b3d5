import DomainModel.Proofs.Live.Hosting

/-!
# Accessing stored fields

Reading and assigning the stored fields of an instance, by itself and through the accessors of its class.
-/

namespace DomainModel.Live

open Run Loading

variable {fuel : Nat} {w w' : World} {v x : Value} {k owner : ClassRef} {n field : String} {f g : Function} {s : Option Function}
  {slots : List ((ClassRef × String) × Value)} {attributes : Option Nat} {r : Except Fault Value}

theorem ne_cls_of_cell? {c : Cell} (h : w.cell? v = some c) : ∀ k, v ≠ .cls k := by
  rintro k rfl
  cases h

def placed : Option Value → Except Fault Value
  | some x => .ok x
  | none => .error .noAttribute

namespace Request

theorem read_accessor (h : w.Orderly) (hv : ∀ c, v ≠ .cls c) (hb : w.bound? (w.classOf v) n = some (.property g s))
    (hg : g.arguments? [v] [] = some [v]) (hrun : g.run (answerWithin fuel) [v] w = (r, w'))
    (h' : r = .error .noAttribute → w'.Orderly) : answerWithin (fuel + 2) (.read v n) w = (r, w') := by
  have hcall : answerWithin (fuel + 1) (.call (.function g) [v] []) w = (r, w') := (call_function hg).trans hrun
  rw [read_property h hv hb, hcall]
  rw [hcall]
  exact h'

theorem read_place (h : w.Orderly) (hv : w.cell? v = some (.object k slots attributes))
    (hb : w.bound? k n = some (.slot owner field)) :
    answerWithin (fuel + 1) (.read v n) w = (placed (slots.lookup (owner, field)), w) := by
  rw [show k = w.classOf v from (World.classOf_of_cell? hv).symm] at hb
  refine read_of_ofInstance h (ne_cls_of_cell? hv) ?_ fun _ => h
  have hslot : Attribute.bind (answerWithin fuel) v (w.classOf v) (.slot owner field) w =
      (placed (slots.lookup (owner, field)), w) := by
    rw [Attribute.bind, world_bind, World.slot?_eq hv]
    cases slots.lookup (owner, field) <;> rfl
  rw [Attribute.ofInstance, world_bind]
  simp only [hb]
  cases w.attribute? v n with
  | none => exact hslot
  | some x => exact hslot

end Request

open Request

theorem Function.stored_spec (h : w.Orderly) (hv : w.cell? v = some (.object k slots attributes))
    (hi : isInternal field = false) (hb : w.bound? k (slot field) = some (.slot owner (slot field))) :
    f.stored (answerWithin (fuel + 1)) v field w = (placed (slots.lookup (owner, slot field)), w) := by
  rw [Function.stored, Function.spell, spell_slot hi]
  exact read_place h hv hb

theorem read_stored (h : w.Orderly) (hv : w.cell? v = some (.object k slots attributes))
    (hi : isInternal field = false) (hn : w.bound? k n = some (.property g s)) (hg : g.body = .stored field)
    (hb : w.bound? k (slot field) = some (.slot owner (slot field))) :
    answerWithin (fuel + 3) (.read v n) w = (placed (slots.lookup (owner, slot field)), w) := by
  rw [show k = w.classOf v from (World.classOf_of_cell? hv).symm] at hn
  refine read_accessor h (ne_cls_of_cell? hv) hn ?_ ?_ fun _ => h
  · rw [Function.arguments?, hg]
    rfl
  · simp only [Function.run, hg]
    exact Function.stored_spec h hv hi hb

/-- An accessor of a number gives the whole number that the stored field denotes. -/
theorem read_count (h : w.Orderly) (hv : w.cell? v = some (.object k slots attributes)) (hi : isInternal field = false)
    (hn : w.bound? k n = some (.property g s)) (hg : g.body = .count field)
    (hb : w.bound? k (slot field) = some (.slot owner (slot field))) (hx : slots.lookup (owner, slot field) = some x)
    (hint : g.global "int" w = (.ok (.cls (.builtin "int")), w))
    (hr : answerWithin (fuel + 1) (.call (.cls (.builtin "int")) [x] []) w = (r, w'))
    (h' : r = .error .noAttribute → w'.Orderly) : answerWithin (fuel + 3) (.read v n) w = (r, w') := by
  rw [show k = w.classOf v from (World.classOf_of_cell? hv).symm] at hn
  refine read_accessor h (ne_cls_of_cell? hv) hn ?_ ?_ h'
  · rw [Function.arguments?, hg]
    rfl
  · have hstored : g.stored (answerWithin (fuel + 1)) v field w = (.ok x, w) := by
      rw [Function.stored_spec h hv hi hb, hx]
      rfl
    simp only [Function.run, hg]
    rw [Function.applyTo, bind_of_ok hint, bind_of_ok hstored]
    exact hr

theorem assign_accessor (hv : w.cell? v = some (.object k slots attributes))
    (hset : w.bound? k "__setattr__" = some (.native "object" "__setattr__")) (hn : w.bound? k n = some (.property g none)) :
    answerWithin (fuel + 1) (.assign v n x) w = (.error .noAttribute, w) := by
  rw [show k = w.classOf v from (World.classOf_of_cell? hv).symm] at hset hn
  have hassign : Assigning.assign (answerWithin fuel) v n x w = (.error .noAttribute, w) := by
    rw [Assigning.assign, world_bind]
    simp only [hset]
    rw [Assigning.assignInstance, world_bind]
    simp only [hn]
    rfl
  have hrequest : answerWithin (fuel + 1) (.assign v n x) =
      (Assigning.assign (answerWithin fuel) v n x >>= fun _ => pure .nothing : Run Value) := by
    cases v <;> first | exact absurd rfl (ne_cls_of_cell? hv _) | rfl
  rw [hrequest, bind_of_error hassign]

/-! ## Accessors of declared fields -/

namespace World.Hosts

variable {m : Module} {d : Declaration} {p : ClassPlan} {c : ClassRef} {vs : List (Variant × ClassRef)} {y : Field}

theorem bound?_contractAccessor (h : w.Hosts m d p c vs) (hy : Fragment.contractAccessor y ∈ p.supplied)
    (hi : isInternal y.name = false) : ∃ g, w.bound? c y.name = some (.property g none) ∧
      g.body = if y.name = "version" then .count "version" else .stored y.name := by
  by_cases hversion : y.name = "version"
  · have haccessor : Fragment.contractAccessor y = .accessor "version" "int" (.count "version") y.docs := if_pos hversion
    rw [hversion] at hi ⊢
    exact ⟨_, h.bound?_supplied (haccessor ▸ hy) (List.mem_singleton_self _) (not_mem_strayNames hi), rfl⟩
  · have haccessor : Fragment.contractAccessor y = .accessor y.name y.type.annotation (.stored y.name) y.docs := if_neg hversion
    rw [if_neg hversion]
    exact ⟨_, h.bound?_supplied (haccessor ▸ hy) (List.mem_singleton_self _) (not_mem_strayNames hi), rfl⟩

/-- A record has a place for each of its fields, unless it is abstract and keeps its record there. -/
theorem bound?_field (h : w.Hosts m d p c vs) (hk : d.kind = .record) (hy : y ∈ d.fields)
    (hregistry : p.bases ≠ [] → slot y.name ≠ Standard.registryName) :
    w.bound? c (slot y.name) = some (.slot c (slot y.name)) := by
  obtain ⟨k, roles, fs, ho⟩ := h.clear.outline
  refine h.bound?_place ?_ hregistry
  rw [(ho.layout_eq h.clear.own).2.1, Declaration.places, hk]
  exact List.mem_map_of_mem (f := fun f : Field => slot f.name) hy

theorem global_int (h : w.Hosts m d p c vs) (hy : Fragment.contractAccessor y ∈ p.supplied) (hversion : y.name = "version") :
    f.global "int" w = (.ok (.cls (.builtin "int")), w) := by
  have haccessor : Fragment.contractAccessor y = .accessor "version" "int" (.count "version") y.docs := if_pos hversion
  refine h.loaded.stage.global_builtin h.sound (h.mem_references_supplied hy ?_) (by decide) (by decide)
  rw [haccessor]
  exact List.mem_cons_of_mem _ (List.mem_singleton_self _)

end World.Hosts

end DomainModel.Live
