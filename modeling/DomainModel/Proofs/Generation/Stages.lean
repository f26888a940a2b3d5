import Mathlib
import DomainModel.Proofs.Generation.Conditions

/-!
# What a check reports

A directive is looked at in stages, each of which may object to it. A check succeeds if no stage objects to any
directive, and otherwise reports what the first stage that objects to the first such directive has to say
(`check_exact`).
-/

namespace DomainModel

/-! ## Arguments -/

namespace Role
variable {r : Role} {a : Argument} {xs : List Argument} {l : Literal} {n : String} {v : Violation}

/-- An argument is named, is one that the role reads, and names a declaration. -/
def Reads (r : Role) (a : Argument) : Prop :=
  ∃ name s, a.name = some name ∧ name ∈ r.accepted ∧ a.value = .text s ∧ Identifier.isIdentifier s = true

inductive Refuses (r : Role) (a : Argument) : Violation → Prop
  | positional : a.name = none → Refuses r a .positionalArgument
  | unexpected {name} : a.name = some name → name ∉ r.accepted → Refuses r a (.unexpectedArgument name)
  | notName {name} : a.name = some name → name ∈ r.accepted →
    (∀ s, a.value = .text s → Identifier.isIdentifier s = false) → Refuses r a (.argumentNotName name)

theorem identifier?_eq_none_iff : identifier? l = none ↔ ∀ s, l = .text s → Identifier.isIdentifier s = false := by
  cases l with
  | text s =>
    rw [identifier?]
    split <;> simp [*]
  | integer n => simp [identifier?]
  | float x => simp [identifier?]
  | truth b => simp [identifier?]
  | absent => simp [identifier?]

theorem text_of_identifier? (h : identifier? l = some n) : l = .text n ∧ Identifier.isIdentifier n = true := by
  cases l with
  | text s =>
    rw [identifier?] at h
    split at h
    · next hs =>
      cases h
      exact ⟨rfl, hs⟩
    · cases h
  | integer | float | truth | absent => cases h

theorem argumentFault?_eq_some_iff : r.argumentFault? a = some v ↔ r.Refuses a v := by
  rw [argumentFault?]
  constructor
  · intro h
    split at h
    · next hn =>
      cases h
      exact .positional hn
    · next name hn =>
      split at h
      · next ha =>
        cases h
        exact .unexpected hn ha
      · next ha =>
        split at h
        · next hi =>
          cases h
          exact .notName hn (Decidable.not_not.mp ha) (identifier?_eq_none_iff.mp (Option.isNone_iff_eq_none.mp hi))
        · cases h
  · intro h
    cases h with
    | positional hn => simp only [hn]
    | unexpected hn ha => simp only [hn, ha, not_false_eq_true, if_true]
    | notName hn ha hi => simp only [hn, ha, not_true_eq_false, if_false, identifier?_eq_none_iff.mpr hi, Option.isNone_none, if_true]

theorem argumentFault?_eq_none_iff : r.argumentFault? a = none ↔ r.Reads a := by
  rw [argumentFault?]
  constructor
  · intro h
    split at h
    · cases h
    · next name hn =>
      split at h
      · cases h
      · next ha =>
        cases hi : identifier? a.value with
        | none => simp [hi] at h
        | some s => exact ⟨name, s, hn, Decidable.not_not.mp ha, text_of_identifier? hi⟩
  · rintro ⟨name, s, hn, ha, hs, hi⟩
    simp [hn, ha, hs, hi, identifier?]

theorem argumentsFault?_eq_some_iff :
    r.argumentsFault? xs = some v ↔ ∃ as a bs, xs = as ++ a :: bs ∧ (∀ b ∈ as, r.Reads b) ∧ r.Refuses a v := by
  rw [argumentsFault?, List.findSome?_eq_some_iff]
  simp only [argumentFault?_eq_some_iff, argumentFault?_eq_none_iff]
  grind

theorem argumentsFault?_eq_none_iff : r.argumentsFault? xs = none ↔ ∀ a ∈ xs, r.Reads a := by
  rw [argumentsFault?, List.findSome?_eq_none_iff]
  simp only [argumentFault?_eq_none_iff]

theorem ofName?_eq_some_iff : ofName? n = some r ↔ r.text = n := by
  constructor
  · exact fun h => (text_of_ofName? h).symm
  · rintro rfl
    exact ofName?_text r

theorem ofName?_eq_none_iff : ofName? n = none ↔ ∀ r : Role, r.text ≠ n := by
  rw [Option.eq_none_iff_forall_ne_some]
  simp only [ne_eq, ofName?_eq_some_iff]

end Role

/-! ## Stages -/

namespace Declaration

inductive Stage
  | repeated
  | unknown
  | arguments
  | shape
  | conditions

def Stage.all : List Stage := [repeated, unknown, arguments, shape, conditions]

/-- A stage objects to a directive that stands behind others. -/
inductive Objects (d : Declaration) (before : List Directive) (x : Directive) : Stage → Violation → Prop
  | repeated : x.name ∈ before.map (·.name) → Objects d before x .repeated .repeatedDirective
  | unknown : (∀ r : Role, r.text ≠ x.name) → Objects d before x .unknown (.unknownDirective x.name)
  | arguments {r : Role} {as a bs v} : r.text = x.name → x.arguments = as ++ a :: bs → (∀ b ∈ as, r.Reads b) →
    r.Refuses a v → Objects d before x .arguments v
  | shape : d.kind ≠ .record → d.kind ≠ .sum → Objects d before x .shape (.indescribable d.kind d.name)
  | conditions {r : Role} {descriptor v} : r.text = x.name → d.describe = .ok descriptor → r.fault? descriptor = some v →
    Objects d before x .conditions v

def Passes (d : Declaration) (before : List Directive) (x : Directive) : Prop := ∀ stage v, ¬d.Objects before x stage v

/-- The first stage that objects to a directive does so with a violation. -/
def Stops (d : Declaration) (before : List Directive) (x : Directive) (v : Violation) : Prop :=
  ∃ earlier stage later, Stage.all = earlier ++ stage :: later ∧ (∀ s ∈ earlier, ∀ u, ¬d.Objects before x s u) ∧
    d.Objects before x stage v

/-- The directives have different names, and each is known, has the arguments that its role reads and stands on a
record or a sum that meets the conditions of its role. -/
def Fit (d : Declaration) : Prop :=
  (d.directives.map (·.name)).Nodup ∧ ∀ x ∈ d.directives, ∃ r : Role, r.text = x.name ∧ (∀ a ∈ x.arguments, r.Reads a) ∧
    (d.kind = .record ∨ d.kind = .sum) ∧ ∃ descriptor, d.describe = .ok descriptor ∧ r.Meets descriptor

def objection? (d : Declaration) (before : List Directive) (x : Directive) : Stage → Option Violation
  | .repeated => if x.name ∈ before.map (·.name) then some .repeatedDirective else none
  | .unknown => if (Role.ofName? x.name).isNone then some (.unknownDirective x.name) else none
  | .arguments => (Role.ofName? x.name).bind (·.argumentsFault? x.arguments)
  | .shape =>
    match d.describe with
    | .ok _ => none
    | .error v => some v
  | .conditions =>
    match d.describe with
    | .ok descriptor => (Role.ofName? x.name).bind (·.fault? descriptor)
    | .error _ => none

section
variable {d : Declaration} {before xs : List Directive} {x : Directive} {v : Violation} {stage : Stage} {e : Diagnostic}

theorem describe_eq_error_iff :
    d.describe = .error v ↔ d.kind ≠ .record ∧ d.kind ≠ .sum ∧ v = .indescribable d.kind d.name := by
  rw [describe]
  cases d.kind <;> simp [eq_comm]

theorem objection?_eq_some_iff : d.objection? before x stage = some v ↔ d.Objects before x stage v := by
  constructor
  · intro h
    cases stage with
    | repeated =>
      rw [objection?] at h
      split at h
      · next hx =>
        cases h
        exact .repeated hx
      · cases h
    | unknown =>
      rw [objection?] at h
      split at h
      · next hx =>
        cases h
        exact .unknown (Role.ofName?_eq_none_iff.mp (Option.isNone_iff_eq_none.mp hx))
      · cases h
    | arguments =>
      obtain ⟨r, hr, hv⟩ := Option.bind_eq_some_iff.mp h
      obtain ⟨as, a, bs, hsplit, has, ha⟩ := Role.argumentsFault?_eq_some_iff.mp hv
      exact .arguments (Role.ofName?_eq_some_iff.mp hr) hsplit has ha
    | shape =>
      rw [objection?] at h
      split at h
      · cases h
      · next hd =>
        cases h
        obtain ⟨hrecord, hsum, rfl⟩ := describe_eq_error_iff.mp hd
        exact .shape hrecord hsum
    | conditions =>
      rw [objection?] at h
      split at h
      · next descriptor hd =>
        obtain ⟨r, hr, hv⟩ := Option.bind_eq_some_iff.mp h
        exact .conditions (Role.ofName?_eq_some_iff.mp hr) hd hv
      · cases h
  · intro h
    cases h with
    | repeated hx => rw [objection?, if_pos hx]
    | unknown hx => rw [objection?, Role.ofName?_eq_none_iff.mpr hx, Option.isNone_none, if_pos rfl]
    | arguments hr hsplit has ha =>
      exact Option.bind_eq_some_iff.mpr
        ⟨_, Role.ofName?_eq_some_iff.mpr hr, Role.argumentsFault?_eq_some_iff.mpr ⟨_, _, _, hsplit, has, ha⟩⟩
    | shape hrecord hsum => simp only [objection?, describe_eq_error_iff.mpr ⟨hrecord, hsum, rfl⟩]
    | conditions hr hd hv => simp only [objection?, hd, Role.ofName?_eq_some_iff.mpr hr, Option.bind_some, hv]

theorem objection?_eq_none_iff : d.objection? before x stage = none ↔ ∀ v, ¬d.Objects before x stage v := by
  rw [Option.eq_none_iff_forall_ne_some]
  simp only [ne_eq, objection?_eq_some_iff]

theorem findSome?_objection? :
    Stage.all.findSome? (d.objection? before x) = some v ↔ d.Stops before x v := by
  rw [List.findSome?_eq_some_iff, Stops]
  simp only [objection?_eq_some_iff, objection?_eq_none_iff]
  grind

theorem applyAfter_eq_error_iff : d.applyAfter before x = .error e ↔ ∃ v, d.Stops before x v ∧ e = .report d x v := by
  have herror : ∀ {e : Diagnostic} {v : Violation},
      ((.error (.report d x v) : Except Diagnostic Applied) = .error e ↔ ∃ u, some v = some u ∧ e = .report d x u) := by
    intro e v
    simp [eq_comm]
  simp only [← findSome?_objection?, Stage.all, List.findSome?_cons, List.findSome?_nil, objection?, applyAfter, Directive.apply]
  by_cases hrepeated : x.name ∈ before.map (·.name)
  · simp only [hrepeated, if_true, herror]
  · cases hr : Role.ofName? x.name with
    | none => simp [hrepeated, Except.mapError, eq_comm]
    | some r =>
      cases ha : r.argumentsFault? x.arguments with
      | some v => simp [hrepeated, ha, Except.mapError, eq_comm]
      | none =>
        cases hd : d.describe with
        | error v => simp [hrepeated, ha, Except.mapError, eq_comm]
        | ok descriptor =>
          cases hv : r.fault? descriptor with
          | some v => simp [hrepeated, ha, hv, Except.mapError, eq_comm]
          | none => simp [hrepeated, ha, hv, Except.mapError]

theorem passes_iff : d.Passes before x ↔ ∃ a, d.applyAfter before x = .ok a := by
  have hnone : d.Passes before x ↔ Stage.all.findSome? (d.objection? before x) = none := by
    rw [List.findSome?_eq_none_iff, Passes]
    simp only [objection?_eq_none_iff]
    exact ⟨fun h stage _ => h stage, fun h stage => h stage (by cases stage <;> simp [Stage.all])⟩
  rw [hnone, Option.eq_none_iff_forall_ne_some]
  cases ha : d.applyAfter before x with
  | ok a =>
    refine iff_of_true (fun v hv => ?_) ⟨a, rfl⟩
    have herror := applyAfter_eq_error_iff.mpr ⟨v, findSome?_objection?.mp hv, rfl⟩
    rw [ha] at herror
    cases herror
  | error e =>
    obtain ⟨v, hv, -⟩ := applyAfter_eq_error_iff.mp ha
    exact iff_of_false (fun h => h v (findSome?_objection?.mpr hv)) nofun

theorem checkFrom_cons_eq_error_iff : d.checkFrom before (x :: xs) = .error e ↔
    d.applyAfter before x = .error e ∨ d.Passes before x ∧ d.checkFrom (before ++ [x]) xs = .error e := by
  rw [checkFrom_cons, passes_iff]
  cases ha : d.applyAfter before x with
  | error e' => simp [Except.bind]
  | ok a =>
    cases hr : d.checkFrom (before ++ [x]) xs with
    | error e' => exact ⟨fun h => .inr ⟨⟨a, rfl⟩, h⟩, fun h => (h.resolve_left nofun).2⟩
    | ok roles => exact ⟨nofun, fun h => nomatch (h.resolve_left nofun).2⟩

theorem checkFrom_eq_error_iff : d.checkFrom before xs = .error e ↔ ∃ as x bs, xs = as ++ x :: bs ∧
    (∀ ys y zs, as = ys ++ y :: zs → d.Passes (before ++ ys) y) ∧ d.applyAfter (before ++ as) x = .error e := by
  -- on the directives that are left; those before them have all passed
  induction xs generalizing before with
  | nil => simp [checkFrom]
  | cons x xs ih =>
    rw [checkFrom_cons_eq_error_iff, ih]
    constructor
    · rintro (h | ⟨hx, as, y, bs, rfl, has, hy⟩)
      · exact ⟨[], x, xs, rfl, by simp, by simpa using h⟩
      · refine ⟨x :: as, y, bs, rfl, fun ys z zs hsplit => ?_, by simpa using hy⟩
        rcases List.cons_eq_append_iff.mp hsplit with ⟨rfl, hz⟩ | ⟨ys, rfl, hsplit⟩
        · obtain ⟨rfl, rfl⟩ := List.cons.inj hz
          rwa [List.append_nil]
        · rw [← List.singleton_append, ← List.append_assoc]
          exact has ys z zs (List.cons.inj hsplit).2
    · rintro ⟨as, y, bs, hsplit, has, hy⟩
      rcases List.cons_eq_append_iff.mp hsplit with ⟨rfl, hsplit⟩ | ⟨as, rfl, hsplit⟩
      · obtain ⟨rfl, rfl⟩ := List.cons.inj hsplit
        rw [List.append_nil] at hy
        exact .inl hy
      · refine .inr ⟨by simpa using has [] x as rfl, as, y, bs, (List.cons.inj hsplit).2, fun ys z zs h => ?_, by simpa using hy⟩
        simpa using has (x :: ys) z zs (by rw [h, List.cons_append])

theorem exists_applied (h : ∀ x ∈ xs, ∃ a : Applied, a.directive = x ∧ Fits d a) :
    ∃ roles : List Applied, roles.map (·.directive) = xs ∧ ∀ a ∈ roles, Fits d a := by
  induction xs with
  | nil => exact ⟨[], rfl, nofun⟩
  | cons x xs ih =>
    rw [List.forall_mem_cons] at h
    obtain ⟨⟨a, rfl, ha⟩, hxs⟩ := h
    obtain ⟨roles, rfl, hroles⟩ := ih hxs
    exact ⟨a :: roles, rfl, List.forall_mem_cons.mpr ⟨ha, hroles⟩⟩

theorem fit_iff : d.Fit ↔ ∃ roles, d.check = .ok roles := by
  simp only [check_eq_ok_iff]
  constructor
  · rintro ⟨hdistinct, hall⟩
    have happlied : ∀ x ∈ d.directives, ∃ a : Applied, a.directive = x ∧ Fits d a := by
      intro x hx
      obtain ⟨r, hr, ha, -, descriptor, hd, hmeets⟩ := hall x hx
      exact ⟨⟨r, x, descriptor⟩, rfl, Role.ofName?_eq_some_iff.mpr hr, Role.argumentsFault?_eq_none_iff.mpr ha, hd,
        Role.fault?_eq_none_iff_meets.mpr hmeets⟩
    obtain ⟨roles, hroles, hfits⟩ := exists_applied happlied
    exact ⟨roles, hroles, hfits, hdistinct⟩
  · rintro ⟨roles, hdirectives, hfits, hdistinct⟩
    refine ⟨hdistinct, fun x hx => ?_⟩
    obtain ⟨a, ha, rfl⟩ := List.mem_map.mp (hdirectives ▸ hx)
    have hfit := hfits a ha
    refine ⟨a.role, Role.ofName?_eq_some_iff.mp hfit.role, Role.argumentsFault?_eq_none_iff.mp hfit.arguments, ?_, a.descriptor,
      hfit.describes, Role.fault?_eq_none_iff_meets.mp hfit.conditions⟩
    have hdescribes := hfit.describes
    rw [describe] at hdescribes
    cases hk : d.kind with
    | record => exact .inl rfl
    | sum => exact .inr rfl
    | synonym =>
      rw [hk] at hdescribes
      cases hdescribes

end

/-- A check is exact: it succeeds if the directives fit, with one entry for each of them in their order, and otherwise
reports the first directive that is refused, with what the first stage that objects to it has to say. -/
theorem check_exact (d : Declaration) : ((∃ roles, d.check = .ok roles) ↔ d.Fit) ∧
    (∀ roles, d.check = .ok roles → roles.map (fun a => (a.directive, a.role.text)) = d.directives.map (fun x => (x, x.name)) ∧
      ∀ a ∈ roles, d.describe = .ok a.descriptor) ∧
    ∀ e, d.check = .error e → ∃ as x bs v, d.directives = as ++ x :: bs ∧
      (∀ ys y zs, as = ys ++ y :: zs → d.Passes ys y) ∧ d.Stops as x v ∧ e = .report d x v := by
  refine ⟨fit_iff.symm, fun roles h => ?_, fun e h => ?_⟩
  · obtain ⟨hdirectives, hfits, -⟩ := check_eq_ok_iff.mp h
    refine ⟨?_, fun a ha => (hfits a ha).describes⟩
    rw [← hdirectives, List.map_map]
    refine List.map_congr_left fun a ha => ?_
    rw [Role.ofName?_eq_some_iff.mp (hfits a ha).role]
    rfl
  · obtain ⟨as, x, bs, hsplit, has, hx⟩ := checkFrom_eq_error_iff.mp h
    obtain ⟨v, hv, rfl⟩ := applyAfter_eq_error_iff.mp hx
    exact ⟨as, x, bs, v, hsplit, has, hv, rfl⟩

def identified (directives : List Directive) : Declaration :=
  { kind := .record, name := "User", directives := directives
    fields := [⟨"id", ⟨"uuid", []⟩, .hidden, [], none⟩, ⟨"version", ⟨"int8", []⟩, .hidden, [], none⟩] }

/-- A command that is also an entity has two roles. An argument without a name is reported before one that is not read and a
directive that is given again. -/
theorem check_exact_entity :
    (∃ roles, (identified [⟨"command", [], none⟩, ⟨"entity", [], none⟩]).check = .ok roles ∧
      roles.map (·.role.text) = ["command", "entity"]) ∧
    ∃ d as x bs, d = identified
        [⟨"command", [], none⟩, ⟨"entity", [⟨none, .text "User"⟩, ⟨some "id", .absent⟩], none⟩, ⟨"command", [], none⟩] ∧
      d.directives = as ++ x :: bs ∧ (∀ ys y zs, as = ys ++ y :: zs → d.Passes ys y) ∧ d.Stops as x .positionalArgument ∧ ¬d.Fit := by
  constructor
  · obtain ⟨roles, hroles⟩ : ∃ roles, (identified [⟨"command", [], none⟩, ⟨"entity", [], none⟩]).check = .ok roles := ⟨_, by cbv⟩
    have hnames := congrArg (List.map Prod.snd) ((check_exact _).2.1 roles hroles).1
    rw [List.map_map, List.map_map] at hnames
    exact ⟨roles, hroles, hnames⟩
  · generalize hd : identified
      [⟨"command", [], none⟩, ⟨"entity", [⟨none, .text "User"⟩, ⟨some "id", .absent⟩], none⟩, ⟨"command", [], none⟩] = d
    have he : d.check = .error (.report d (some ⟨"entity", [], none⟩) .positionalArgument) := by
      rw [← hd]
      cbv
    obtain ⟨as, x, bs, v, hsplit, has, hstops, hreport⟩ := (check_exact d).2.2 _ he
    obtain rfl : v = .positionalArgument := by
      simp only [Diagnostic.report, Diagnostic.mk.injEq, Cause.rejected.injEq] at hreport
      exact hreport.1.1.symm
    refine ⟨d, as, x, bs, rfl, hsplit, has, hstops, fun hfit => ?_⟩
    obtain ⟨roles, hroles⟩ := (check_exact d).1.mpr hfit
    rw [he] at hroles
    cases hroles

end Declaration

end DomainModel
