import DomainModel.Check

/-!
# Checked declarations

`check_eq_ok_iff`: a check succeeds if the names of the directives differ and each directive fits by
itself, and gives one entry for each directive then. An error of a check is reported on the declaration,
for one of its directives (`report_of_check`).
-/

namespace DomainModel

/-- A directive fits its declaration: the role that its name gives reads its arguments, and the shape of
the declaration meets the conditions of the role. -/
structure Fits (d : Declaration) (a : Applied) : Prop where
  role : Role.ofName? a.directive.name = some a.role
  arguments : a.role.argumentsFault? a.directive.arguments = none
  describes : d.describe = .ok a.descriptor
  conditions : a.role.fault? a.descriptor = none

theorem mapError_eq_ok_iff {α ε ε' : Type} {g : ε → ε'} {x : Except ε α} {a : α} :
    x.mapError g = .ok a ↔ x = .ok a := by
  cases x with
  | error e =>
    constructor
    · intro h
      cases h
    · intro h
      cases h
  | ok b =>
    constructor
    · intro h
      cases h
      rfl
    · intro h
      cases h
      rfl

theorem Directive.apply_eq_ok_iff {x : Directive} {d : Declaration} {a : Applied} :
    x.apply d = .ok a ↔ a.directive = x ∧ Fits d a := by
  constructor
  · intro h
    unfold Directive.apply at h
    split at h
    · cases h
    · next hr =>
      split at h
      · cases h
      · next ha =>
        split at h
        · cases h
        · next hd =>
          split at h
          · cases h
          · next hc =>
            cases h
            exact ⟨rfl, hr, ha, hd, hc⟩
  · rintro ⟨rfl, h⟩
    rw [Directive.apply, h.role]
    simp only [h.arguments, h.describes, h.conditions]

namespace Declaration
variable {d : Declaration}

theorem applyAfter_eq_ok_iff {before : List Directive} {x : Directive} {a : Applied} :
    d.applyAfter before x = .ok a ↔ x.name ∉ before.map (·.name) ∧ a.directive = x ∧ Fits d a := by
  rw [← Directive.apply_eq_ok_iff, applyAfter]
  by_cases hx : x.name ∈ before.map (·.name)
  · simp [hx]
  · rw [if_neg hx, mapError_eq_ok_iff]
    exact (and_iff_right hx).symm

theorem checkFrom_cons {before xs : List Directive} {x : Directive} :
    d.checkFrom before (x :: xs) = (d.applyAfter before x).bind fun a =>
      (d.checkFrom (before ++ [x]) xs).map (a :: ·) := by
  rw [checkFrom]
  cases d.applyAfter before x with
  | error e => rfl
  | ok a =>
    simp only [bind, Except.bind]
    cases d.checkFrom (before ++ [x]) xs <;> rfl

theorem checkFrom_cons_eq_ok_iff {before xs : List Directive} {x : Directive} {roles : List Applied} :
    d.checkFrom before (x :: xs) = .ok roles ↔ ∃ a rest, roles = a :: rest ∧ d.applyAfter before x = .ok a ∧
      d.checkFrom (before ++ [x]) xs = .ok rest := by
  rw [checkFrom_cons]
  constructor
  · intro h
    cases ha : d.applyAfter before x with
    | error e => rw [ha] at h; cases h
    | ok a =>
      cases hr : d.checkFrom (before ++ [x]) xs with
      | error e => rw [ha, hr] at h; cases h
      | ok rest =>
        rw [ha, hr] at h
        cases h
        exact ⟨a, rest, rfl, rfl, rfl⟩
  · rintro ⟨a, rest, rfl, ha, hr⟩
    rw [ha, hr]
    rfl

theorem checkFrom_eq_ok_iff {before xs : List Directive} {roles : List Applied} :
    d.checkFrom before xs = .ok roles ↔ roles.map (·.directive) = xs ∧ (∀ a ∈ roles, Fits d a) ∧
      (∀ x ∈ xs, x.name ∉ before.map (·.name)) ∧ (xs.map (·.name)).Nodup := by
  -- on the directives that are left; each one that is checked moves to those before
  induction xs generalizing before roles with
  | nil =>
    rw [checkFrom]
    constructor
    · rintro ⟨⟩
      simp
    · rintro ⟨h, -⟩
      rw [List.map_eq_nil_iff.mp h]
  | cons x xs ih =>
    have hnames : (∀ y ∈ x :: xs, y.name ∉ before.map (·.name)) ∧ ((x :: xs).map (·.name)).Nodup ↔
        x.name ∉ before.map (·.name) ∧ (∀ y ∈ xs, y.name ∉ (before ++ [x]).map (·.name)) ∧
          (xs.map (·.name)).Nodup := by
      simp only [List.forall_mem_cons, List.map_cons, List.nodup_cons, List.map_append, List.map_nil,
        List.mem_append, List.mem_singleton, not_or, List.mem_map, not_exists, not_and]
      grind
    rw [checkFrom_cons_eq_ok_iff, hnames]
    constructor
    · rintro ⟨a, rest, rfl, ha, hr⟩
      obtain ⟨hx, rfl, hfit⟩ := applyAfter_eq_ok_iff.mp ha
      obtain ⟨rfl, hfits, hnot, hnodup⟩ := ih.mp hr
      exact ⟨rfl, List.forall_mem_cons.mpr ⟨hfit, hfits⟩, hx, hnot, hnodup⟩
    · rintro ⟨hmap, hfits, hx, hnot, hnodup⟩
      obtain ⟨a, rest, rfl, rfl, rfl⟩ := List.map_eq_cons_iff.mp hmap
      rw [List.forall_mem_cons] at hfits
      exact ⟨a, rest, rfl, applyAfter_eq_ok_iff.mpr ⟨hx, rfl, hfits.1⟩, ih.mpr ⟨rfl, hfits.2, hnot, hnodup⟩⟩

/-- A check succeeds if the directives differ in their names and each fits by itself. -/
theorem check_eq_ok_iff {roles : List Applied} : d.check = .ok roles ↔
    roles.map (·.directive) = d.directives ∧ (∀ a ∈ roles, Fits d a) ∧ (d.directives.map (·.name)).Nodup := by
  rw [check, checkFrom_eq_ok_iff]
  simp

theorem report_of_checkFrom {before xs : List Directive} {e : Diagnostic} (h : d.checkFrom before xs = .error e) :
    ∃ x ∈ xs, ∃ v, e = .report d x v := by
  induction xs generalizing before with
  | nil => cases h
  | cons x xs ih =>
    rw [checkFrom_cons] at h
    cases ha : d.applyAfter before x with
    | error e' =>
      rw [ha] at h
      cases h
      rw [applyAfter] at ha
      split at ha
      · cases ha
        exact ⟨x, by simp, _, rfl⟩
      · cases hx : x.apply d with
        | ok a => rw [hx] at ha; cases ha
        | error v => rw [hx] at ha; cases ha; exact ⟨x, by simp, v, rfl⟩
    | ok a =>
      cases hr : d.checkFrom (before ++ [x]) xs with
      | ok rest => rw [ha, hr] at h; cases h
      | error e' =>
        rw [ha, hr] at h
        cases h
        obtain ⟨y, hy, v, he⟩ := ih hr
        exact ⟨y, by simp [hy], v, he⟩

theorem report_of_check {e : Diagnostic} (h : d.check = .error e) : ∃ x ∈ d.directives, ∃ v, e = .report d x v :=
  report_of_checkFrom h

end Declaration

/-! ## Roles and conditions -/

namespace Role
variable {r : Role} {d : Descriptor}

theorem ofName?_text (r : Role) : ofName? r.text = some r := by
  cases r <;> decide

theorem text_of_ofName? {n : String} (h : ofName? n = some r) : n = r.text := by
  have := List.find?_some h
  exact (of_decide_eq_true this).symm

theorem fault?_eq_none_iff : r.fault? d = none ↔ ∀ c ∈ r.conditions, c.fault? d = none := by
  rw [fault?, List.findSome?_eq_none_iff]

end Role

namespace Condition
variable {d : Descriptor}

theorem isRecord_iff : isRecord.fault? d = none ↔ d.isRecord = true := by
  rw [fault?]
  split <;> simp [*]

theorem isSum_iff : isSum.fault? d = none ↔ d.isRecord = false := by
  rw [fault?]
  split <;> simp [*]

theorem hasField_iff {n : String} {q : Requirement} :
    (hasField n q).fault? d = none ↔ ∃ f, d.field? n = some f ∧ q.admits f.typeClass = true := by
  rw [fault?]
  cases d.field? n with
  | none => simp
  | some f => simp

theorem noExposedField_iff : noExposedField.fault? d = none ↔ ∀ f ∈ d.fields, f.isExposed = false := by
  rw [fault?, Option.map_eq_none_iff, List.find?_eq_none]
  simp

theorem singleValue_iff : singleValue.fault? d = none ↔ ∃ f, d.fields = [f] ∧ f.name = valueField := by
  rw [fault?]
  split
  · next f hf => simp [hf]
  · next hno =>
    simp only [reduceCtorEq, false_iff, not_exists, not_and]
    exact fun f hf => absurd hf (hno f)

end Condition

theorem Descriptor.mem_of_field? {d : Descriptor} {n : String} {f : Field} (h : d.field? n = some f) :
    f ∈ d.fields ∧ f.name = n :=
  ⟨List.mem_of_find?_eq_some h, of_decide_eq_true (List.find?_some h :)⟩

end DomainModel
