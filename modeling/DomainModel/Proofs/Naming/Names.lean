import DomainModel.Naming
import DomainModel.Proofs.Source.Printing

/-!
# What the rules on names depend on

`check_eq_ok_iff` says which files keep the rules on names. Only the names of declarations, fields and
variants matter (`check_congr`), so that neither places nor documentation do.
-/

namespace DomainModel

def Declaration.names (d : Declaration) : String × List String × List String :=
  (d.name, d.fields.map (·.name), d.variants.map (·.name))

namespace Naming

/-- The names of a declaration keep the rules by themselves. -/
structure WellNamed (d : Declaration) : Prop where
  name : Keyword.isReserved d.name = false
  fields : ∀ f ∈ d.fields, Keyword.isReserved f.name = false ∧ f.name ∉ reservedFields
  distinct_fields : (d.fields.map (·.name)).Nodup
  variants : ∀ v ∈ d.variants, Keyword.isReserved v.name = false
  distinct_variants : (d.variants.map (·.name)).Nodup

theorem firstFault?_eq_none_iff {α : Type} {rule : List α → α → Option NamingFault} {P : α → Prop}
    (location : α → Option Location) (name : α → String)
    (h : ∀ before x, rule before x = none ↔ P x ∧ name x ∉ before.map name) (before xs : List α) :
    firstFault? rule location before xs = none ↔
      (∀ x ∈ xs, P x ∧ name x ∉ before.map name) ∧ (xs.map name).Nodup := by
  induction xs generalizing before with
  | nil => simp [firstFault?]
  | cons x xs ih =>
    have hx := h before x
    rw [firstFault?]
    cases hr : rule before x with
    | some fault =>
      rw [hr] at hx
      simp only [reduceCtorEq, false_iff] at hx ⊢
      exact fun hno => hx (hno.1 x (by simp))
    | none =>
      rw [hr] at hx
      simp only [true_iff] at hx
      simp only [ih (before ++ [x]), List.map_cons, List.nodup_cons, List.forall_mem_cons, List.map_append,
        List.map_nil, List.mem_append, List.mem_singleton, not_or, List.mem_map (l := xs), not_exists, not_and]
      constructor
      · rintro ⟨hxs, hnodup⟩
        exact ⟨⟨hx, fun y hy => ⟨(hxs y hy).1, (hxs y hy).2.1⟩⟩, fun y hy => (hxs y hy).2.2, hnodup⟩
      · rintro ⟨⟨-, hxs⟩, hnew, hnodup⟩
        exact ⟨fun y hy => ⟨(hxs y hy).1, (hxs y hy).2, hnew y hy⟩, hnodup⟩

theorem fieldFault?_eq_none_iff (d : Declaration) (before : List Field) (f : Field) :
    fieldFault? d before f = none ↔
      (Keyword.isReserved f.name = false ∧ f.name ∉ reservedFields) ∧ f.name ∉ before.map (·.name) := by
  unfold fieldFault?
  by_cases hr : Keyword.isReserved f.name = true
  · simp [hr]
  · by_cases hs : f.name ∈ reservedFields
    · simp [hr, hs]
    · simp [hr, hs]

theorem variantFault?_eq_none_iff (d : Declaration) (before : List Variant) (v : Variant) :
    variantFault? d before v = none ↔ Keyword.isReserved v.name = false ∧ v.name ∉ before.map (·.name) := by
  unfold variantFault?
  by_cases hr : Keyword.isReserved v.name = true
  · simp [hr]
  · simp [hr]

theorem declarationFault?_eq_none_iff (before : List Declaration) (d : Declaration) :
    declarationFault? before d = none ↔ Keyword.isReserved d.name = false ∧ d.name ∉ before.map (·.name) := by
  unfold declarationFault?
  by_cases hr : Keyword.isReserved d.name = true
  · simp [hr]
  · simp [hr]

theorem fault?_eq_none_iff (before : List Declaration) (d : Declaration) :
    fault? before d = none ↔ WellNamed d ∧ d.name ∉ before.map (·.name) := by
  have hd := declarationFault?_eq_none_iff before d
  have hf := firstFault?_eq_none_iff (·.location) (·.name) (fieldFault?_eq_none_iff d) [] d.fields
  have hv := firstFault?_eq_none_iff (·.location) (·.name) (variantFault?_eq_none_iff d) [] d.variants
  simp only [List.map_nil, List.not_mem_nil, not_false_eq_true, and_true] at hf hv
  unfold fault?
  cases h : declarationFault? before d with
  | some fault =>
    rw [h] at hd
    simp only [reduceCtorEq, false_iff] at hd ⊢
    exact fun hno => hd ⟨hno.1.name, hno.2⟩
  | none =>
    rw [h] at hd
    simp only [true_iff] at hd
    simp only [Option.or_eq_none_iff, hf, hv]
    constructor
    · rintro ⟨⟨hf, hfn⟩, hv, hvn⟩
      exact ⟨⟨hd.1, hf, hfn, hv, hvn⟩, hd.2⟩
    · rintro ⟨⟨-, hf, hfn, hv, hvn⟩, -⟩
      exact ⟨⟨hf, hfn⟩, hv, hvn⟩

theorem firstFaultFrom?_eq_none_iff (before ds : List Declaration) :
    firstFaultFrom? before ds = none ↔
      (∀ d ∈ ds, WellNamed d ∧ d.name ∉ before.map (·.name)) ∧ (ds.map (·.name)).Nodup := by
  induction ds generalizing before with
  | nil => simp [firstFaultFrom?]
  | cons d ds ih =>
    simp only [firstFaultFrom?, Option.or_eq_none_iff, fault?_eq_none_iff, ih (before ++ [d]), List.map_cons,
      List.nodup_cons, List.forall_mem_cons, List.map_append, List.map_nil, List.mem_append,
      List.mem_singleton, not_or, List.mem_map (l := ds), not_exists, not_and]
    constructor
    · rintro ⟨hd, hds, hnodup⟩
      exact ⟨⟨hd, fun x hx => ⟨(hds x hx).1, (hds x hx).2.1⟩⟩, fun x hx => (hds x hx).2.2, hnodup⟩
    · rintro ⟨⟨hd, hds⟩, hnew, hnodup⟩
      exact ⟨hd, fun x hx => ⟨(hds x hx).1, (hds x hx).2, hnew x hx⟩, hnodup⟩

/-- A file keeps the rules if its declarations do, each by itself, and have different names. -/
theorem check_eq_ok_iff {ds : List Declaration} :
    check ds = .ok () ↔ (∀ d ∈ ds, WellNamed d) ∧ (ds.map (·.name)).Nodup := by
  have h := firstFaultFrom?_eq_none_iff [] ds
  simp only [List.map_nil, List.not_mem_nil, not_false_eq_true, and_true] at h
  rw [← h, check]
  cases firstFaultFrom? [] ds <;> simp

theorem wellNamed_congr {d d' : Declaration} (h : d.names = d'.names) : WellNamed d ↔ WellNamed d' := by
  suffices key : ∀ d d' : Declaration, d.names = d'.names → WellNamed d → WellNamed d' from
    ⟨key d d' h, key d' d h.symm⟩
  intro d d' h hd
  simp only [Declaration.names, Prod.mk.injEq] at h
  obtain ⟨hname, hfields, hvariants⟩ := h
  have hf : ∀ n ∈ d'.fields.map (·.name), Keyword.isReserved n = false ∧ n ∉ reservedFields := by
    rw [← hfields]
    exact List.forall_mem_map.mpr hd.fields
  have hv : ∀ n ∈ d'.variants.map (·.name), Keyword.isReserved n = false := by
    rw [← hvariants]
    exact List.forall_mem_map.mpr hd.variants
  exact ⟨hname ▸ hd.name, List.forall_mem_map.mp hf, hfields ▸ hd.distinct_fields, List.forall_mem_map.mp hv,
    hvariants ▸ hd.distinct_variants⟩

theorem check_congr {ds ds' : List Declaration} (h : ds.map (·.names) = ds'.map (·.names)) :
    check ds = .ok () ↔ check ds' = .ok () := by
  have hall : ∀ ds ds' : List Declaration, ds.map (·.names) = ds'.map (·.names) →
      (∀ d ∈ ds, WellNamed d) → ∀ d ∈ ds', WellNamed d := by
    intro ds ds' h hds d hd
    obtain ⟨d₀, hd₀, he⟩ := List.mem_map.mp (h ▸ List.mem_map_of_mem hd)
    exact (wellNamed_congr he).mp (hds d₀ hd₀)
  have hnames : ds.map (·.name) = ds'.map (·.name) := by
    have hfst := congrArg (List.map Prod.fst) h
    rw [List.map_map, List.map_map] at hfst
    exact hfst
  rw [check_eq_ok_iff, check_eq_ok_iff, hnames]
  exact and_congr_left fun _ => ⟨hall ds ds' h, hall ds' ds h.symm⟩

theorem names_unlocated (d : Declaration) : d.unlocated.names = d.names := by
  simp only [Declaration.names, Declaration.unlocated, List.map_map]
  rfl

theorem check_of_unlocated {ds ds' : List Declaration}
    (he : ds'.map Declaration.unlocated = ds.map Declaration.unlocated) (h : check ds = .ok ()) :
    check ds' = .ok () := by
  refine (check_congr ?_).mpr h
  have hnames := congrArg (List.map Declaration.names) he
  simpa [Function.comp_def, names_unlocated] using hnames

end Naming

end DomainModel
