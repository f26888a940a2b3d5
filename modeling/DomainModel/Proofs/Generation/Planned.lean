import Mathlib.Data.List.Forall2
import Mathlib.Data.List.Nodup
import Mathlib.Data.List.Pairwise
import DomainModel.ClassPlan
import DomainModel.Proofs.Generation.Contribution

/-!
# Planning a class

What stands between a check that succeeds and a class: the members of the fragments must have different
names, and no name that is bound after the body may be taken (`ClassPlan.ofDeclaration_spec`).
-/

namespace DomainModel

/-! ## Lists in the exception monad -/

section
variable {α β ε : Type} {f : α → Except ε β} {xs : List α}

theorem mapM_eq_ok {R : α → β → Prop} (h : ∀ x ∈ xs, ∃ y, f x = .ok y ∧ R x y) :
    ∃ ys, xs.mapM f = .ok ys ∧ List.Forall₂ R xs ys := by
  induction xs with
  | nil => exact ⟨[], rfl, .nil⟩
  | cons x xs ih =>
    obtain ⟨y, hy, hR⟩ := h x (by simp)
    obtain ⟨ys, hys, hall⟩ := ih fun z hz => h z (by simp [hz])
    exact ⟨y :: ys, by rw [List.mapM_cons, hy, hys]; rfl, .cons hR hall⟩

theorem exists_of_mapM_eq_ok {ys : List β} (h : xs.mapM f = .ok ys) : ∀ x ∈ xs, ∃ y, f x = .ok y := by
  induction xs generalizing ys with
  | nil => exact fun x hx => (List.not_mem_nil hx).elim
  | cons x xs ih =>
    rw [List.mapM_cons] at h
    cases hx : f x with
    | error e =>
      rw [hx] at h
      cases h
    | ok y =>
      cases hxs : xs.mapM f with
      | error e =>
        rw [hx, hxs] at h
        cases h
      | ok ys =>
        intro z hz
        rcases List.mem_cons.mp hz with rfl | hz
        · exact ⟨y, hx⟩
        · exact ih hxs z hz

/-- The first error ends the walk. -/
theorem exists_of_mapM_eq_error {e : ε} (h : xs.mapM f = .error e) : ∃ before x after, xs = before ++ x :: after ∧
    (∀ y ∈ before, ∃ z, f y = .ok z) ∧ f x = .error e := by
  induction xs with
  | nil => cases h
  | cons x xs ih =>
    rw [List.mapM_cons] at h
    cases hx : f x with
    | error e' =>
      rw [hx] at h
      cases h
      exact ⟨[], x, xs, rfl, by simp, hx⟩
    | ok y =>
      have hrest : xs.mapM f = .error e := by
        rw [hx] at h
        cases hxs : xs.mapM f with
        | error e' =>
          rw [hxs] at h
          cases h
          rfl
        | ok ys =>
          rw [hxs] at h
          cases h
      obtain ⟨before, z, after, rfl, hok, hz⟩ := ih hrest
      refine ⟨x :: before, z, after, rfl, fun w hw => ?_, hz⟩
      rcases List.mem_cons.mp hw with rfl | hw
      · exact ⟨y, hx⟩
      · exact hok w hw

theorem exists_of_forall₂ {R : α → β → Prop} {ys : List β} (h : List.Forall₂ R xs ys) : ∀ y ∈ ys, ∃ x, R x y := by
  induction h with
  | nil => exact fun y hy => (List.not_mem_nil hy).elim
  | cons hR _ ih =>
    intro y hy
    rcases List.mem_cons.mp hy with rfl | hy
    · exact ⟨_, hR⟩
    · exact ih y hy

theorem map_eq_of_forall₂ {γ : Type} {R : α → β → Prop} {ys : List β} {g : α → γ} {k : β → γ}
    (h : List.Forall₂ R xs ys) (hR : ∀ x y, R x y → k y = g x) : ys.map k = xs.map g := by
  induction h with
  | nil => rfl
  | cons hx _ ih => rw [List.map_cons, List.map_cons, ih, hR _ _ hx]

end

/-! ## The fragments of a checked declaration -/

def Declaration.Carries (d : Declaration) (r : Role) : Prop := r.text ∈ d.directives.map (·.name)

structure Planned (d : Declaration) (fs : List Fragment) : Prop where
  stems : ∀ f ∈ fs, ∃ a, Fits d a ∧ Contributes a f
  directives : fs.map (·.directive) = d.directives
  nodup : (d.directives.map (·.name)).Nodup

theorem exists_planned {d : Declaration} {roles : List Applied} (h : d.check = .ok roles) :
    ∃ fs, ClassPlan.fragments d = .ok fs ∧ Planned d fs := by
  obtain ⟨hdirs, hfits, hnodup⟩ := Declaration.check_eq_ok_iff.mp h
  have heach : ∀ a ∈ roles, ∃ f, a.fragment.mapError (Diagnostic.report d (some a.directive)) = .ok f ∧
      Fits d a ∧ Contributes a f := by
    intro a ha
    obtain ⟨f, hf, hc⟩ := exists_fragment (hfits a ha).conditions
    exact ⟨f, mapError_eq_ok_iff.mpr hf, hfits a ha, hc⟩
  obtain ⟨fs, hfs, hall⟩ := mapM_eq_ok heach
  refine ⟨fs, by rw [ClassPlan.fragments, h]; exact hfs, ?_, ?_, hnodup⟩
  · exact exists_of_forall₂ hall
  · rw [← hdirs]
    exact map_eq_of_forall₂ hall fun _ _ hR => hR.2.directive

namespace Planned
variable {d : Declaration} {fs : List Fragment}

theorem exists_of_mem (h : Planned d fs) {x : Directive} (hx : x ∈ d.directives) :
    ∃ f ∈ fs, ∃ a, Fits d a ∧ Contributes a f ∧ a.directive = x := by
  rw [← h.directives] at hx
  obtain ⟨f, hf, rfl⟩ := List.mem_map.mp hx
  obtain ⟨a, ha, hc⟩ := h.stems f hf
  exact ⟨f, hf, a, ha, hc, hc.directive.symm⟩

theorem role_of_name {a : Applied} {r : Role} (ha : Fits d a) (hn : a.directive.name = r.text) : a.role = r := by
  have := ha.role
  rw [hn, Role.ofName?_text] at this
  exact (Option.some.inj this).symm

theorem exists_of_carries (h : Planned d fs) {r : Role} (hr : d.Carries r) :
    ∃ f ∈ fs, ∃ a, Fits d a ∧ Contributes a f ∧ a.role = r := by
  obtain ⟨x, hx, hn⟩ := List.mem_map.mp hr
  obtain ⟨f, hf, a, ha, hc, rfl⟩ := h.exists_of_mem hx
  exact ⟨f, hf, a, ha, hc, role_of_name ha hn⟩

theorem carries_of_stems (h : Planned d fs) {f : Fragment} {a : Applied} (hf : f ∈ fs) (ha : Fits d a)
    (hc : Contributes a f) : d.Carries a.role := by
  have hx : f.directive ∈ d.directives := by
    rw [← h.directives]
    exact List.mem_map_of_mem hf
  rw [Declaration.Carries, ← Role.text_of_ofName? ha.role, ← hc.directive]
  exact List.mem_map_of_mem hx

theorem descriptor_eq {a a' : Applied} (ha : Fits d a) (ha' : Fits d a') : a.descriptor = a'.descriptor :=
  Except.ok.inj (ha.describes.symm.trans ha'.describes)

theorem not_nodup (h : Planned d fs) (he : d.Carries .entity) (hv : d.Carries .domainEvent) :
    ¬(fs.flatMap fun f => f.members.map Member.name).Nodup := by
  rw [List.nodup_flatMap]
  rintro ⟨-, hp⟩
  obtain ⟨f, hf, a, ha, hc, hr⟩ := h.exists_of_carries he
  obtain ⟨f', hf', a', ha', hc', hr'⟩ := h.exists_of_carries hv
  have hid : "id" ∈ f.members.map Member.name := by
    rw [hc.supplies, hr]
    exact .inl (by decide)
  have hid' : "id" ∈ f'.members.map Member.name := by
    rw [hc'.supplies, hr']
    exact (by decide : "id" ∈ ["occurred", "id", "aggregate_id", "version"])
  have hne : f ≠ f' := by
    rintro rfl
    have := hc.role.symm.trans hc'.role
    rw [hr, hr'] at this
    cases this
  have : Std.Symm (Function.onFun List.Disjoint fun f : Fragment => f.members.map Member.name) :=
    ⟨fun _ _ hd _ hm hm' => hd hm' hm⟩
  exact hp.forall hf hf' hne hid hid'

theorem disjoint (h : Planned d fs) (hno : ¬(d.Carries .entity ∧ d.Carries .domainEvent)) {f f' : Fragment}
    (hf : f ∈ fs) (hf' : f' ∈ fs) (hne : f.directive.name ≠ f'.directive.name) :
    List.Disjoint (f.members.map Member.name) (f'.members.map Member.name) := by
  intro n hn hn'
  obtain ⟨a, ha, hc⟩ := h.stems f hf
  obtain ⟨a', ha', hc'⟩ := h.stems f' hf'
  have hdesc := descriptor_eq ha' ha
  have hcond' := ha'.conditions
  rw [hc.supplies] at hn
  rw [hc'.supplies, hdesc] at hn'
  rw [hdesc] at hcond'
  have hcarries := h.carries_of_stems hf ha hc
  have hcarries' := h.carries_of_stems hf' ha' hc'
  rcases Role.eq_of_supplies ha.conditions hcond' hn hn' with he | ⟨he, he'⟩ | ⟨he, he'⟩
  · rw [hc.directive, hc'.directive, Role.text_of_ofName? ha.role, Role.text_of_ofName? ha'.role, he] at hne
    exact hne rfl
  · rw [he] at hcarries
    rw [he'] at hcarries'
    exact hno ⟨hcarries, hcarries'⟩
  · rw [he] at hcarries
    rw [he'] at hcarries'
    exact hno ⟨hcarries', hcarries⟩

/-- The members of the fragments have different names, unless the declaration is both an entity and a
domain event. -/
theorem nodup_iff (h : Planned d fs) : (fs.flatMap fun f => f.members.map Member.name).Nodup ↔
    ¬(d.Carries .entity ∧ d.Carries .domainEvent) := by
  constructor
  · intro hn hboth
    exact h.not_nodup hboth.1 hboth.2 hn
  · intro hno
    have hnames : fs.Pairwise fun f f' => f.directive.name ≠ f'.directive.name := by
      have := h.nodup
      rw [← h.directives, List.map_map] at this
      exact List.pairwise_map.mp this
    rw [List.nodup_flatMap]
    refine ⟨fun f hf => ?_, hnames.imp_of_mem fun hf hf' hne => h.disjoint hno hf hf' hne⟩
    obtain ⟨a, -, hc⟩ := h.stems f hf
    exact hc.nodup

end Planned

/-! ## Merging members -/

namespace ClassPlan
variable {d : Declaration} {fs : List Fragment}

/-- The members of all fragments, each with its directive. -/
def suppliedBy (fs : List Fragment) : List Supplied := fs.flatMap fun f => f.members.map (⟨·, f.directive⟩)

theorem map_name_suppliedBy :
    (suppliedBy fs).map Supplied.name = fs.flatMap fun f => f.members.map Member.name := by
  rw [suppliedBy, List.map_flatMap]
  simp only [List.map_map]
  rfl

theorem mem_suppliedBy {n : String} :
    n ∈ (suppliedBy fs).map Supplied.name ↔ ∃ f ∈ fs, n ∈ f.members.map Member.name := by
  rw [map_name_suppliedBy, List.mem_flatMap]

theorem foldlM_addMember {taken xs : List Supplied} (h : (taken.map Supplied.name).Nodup) :
    (((taken ++ xs).map Supplied.name).Nodup ∧ xs.foldlM (addMember d) taken = .ok (taken ++ xs)) ∨
      (¬((taken ++ xs).map Supplied.name).Nodup ∧
        ∃ o v, xs.foldlM (addMember d) taken = .error (.report d o v)) := by
  -- what is taken keeps different names, so that the first name that repeats is seen
  induction xs generalizing taken with
  | nil => exact .inl ⟨by rw [List.append_nil]; exact h, by rw [List.append_nil]; rfl⟩
  | cons x xs ih =>
    rw [List.foldlM_cons, addMember]
    by_cases hx : x.name ∈ taken.map Supplied.name
    · refine .inr ⟨fun hn => ?_, _, _, by rw [if_pos hx]; rfl⟩
      rw [List.map_append, List.nodup_append] at hn
      exact hn.2.2 x.name hx x.name (by simp) rfl
    · have hnodup : ((taken ++ [x]).map Supplied.name).Nodup := by
        rw [List.map_append, List.nodup_append]
        refine ⟨h, by simp, fun a ha b hb => ?_⟩
        rw [List.map_cons, List.map_nil, List.mem_singleton] at hb
        rw [hb]
        exact fun he => hx (he ▸ ha)
      have happ : taken ++ x :: xs = taken ++ [x] ++ xs := by simp
      rw [if_neg hx, happ]
      exact ih hnodup

theorem merge_spec (h : Planned d fs) :
    (¬(d.Carries .entity ∧ d.Carries .domainEvent) ∧ merge d fs = .ok (suppliedBy fs)) ∨
      ((d.Carries .entity ∧ d.Carries .domainEvent) ∧ ∃ o v, merge d fs = .error (.report d o v)) := by
  have hiff := h.nodup_iff
  rw [← map_name_suppliedBy] at hiff
  have hnil : (([] : List Supplied).map Supplied.name).Nodup := List.nodup_nil
  rcases @foldlM_addMember d [] (suppliedBy fs) hnil with ⟨hn, hok⟩ | ⟨hn, he⟩
  · exact .inl ⟨hiff.mp hn, hok⟩
  · exact .inr ⟨not_not.mp fun hno => hn (hiff.mpr hno), he⟩

/-! ## Names bound after the body -/

/-- A name that is bound after the body is already taken. -/
def Clashes (s : Shape) (fs : List Fragment) : Prop :=
  ∃ p ∈ assignedNames s fs, p.1 ∈ takenNames s (suppliedBy fs)

theorem checkAssigned_spec (d : Declaration) (s : Shape) (fs : List Fragment) :
    (¬Clashes s fs ∧
        checkAssigned d (suppliedBy fs) (takenNames s (suppliedBy fs)) (assignedNames s fs) = .ok ()) ∨
      (Clashes s fs ∧ ∃ o v,
        checkAssigned d (suppliedBy fs) (takenNames s (suppliedBy fs)) (assignedNames s fs) =
          .error (.report d o v)) := by
  rw [checkAssigned]
  cases hfind : (assignedNames s fs).find? fun p => p.1 ∈ takenNames s (suppliedBy fs) with
  | none =>
    refine .inl ⟨?_, rfl⟩
    rintro ⟨p, hp, htaken⟩
    exact List.find?_eq_none.mp hfind p hp (decide_eq_true htaken)
  | some p =>
    have := List.find?_some hfind
    exact .inr ⟨⟨p, List.mem_of_find?_eq_some hfind, by simpa using this⟩, _, _, rfl⟩

/-- After a check that succeeds, a class is planned unless two roles supply one member or a name clashes. -/
theorem ofDeclaration_spec {c : Descriptor} (hd : d.describe = .ok c) (hfs : fragments d = .ok fs)
    (h : Planned d fs) :
    (¬(d.Carries .entity ∧ d.Carries .domainEvent) ∧ ¬Clashes c.shape fs ∧ ∃ p, ofDeclaration d = .ok p) ∨
      (((d.Carries .entity ∧ d.Carries .domainEvent) ∨ Clashes c.shape fs) ∧
        ∃ o v, ofDeclaration d = .error (.report d o v)) := by
  rw [ofDeclaration, mapError_eq_ok_iff.mpr hd, hfs]
  rcases merge_spec h with ⟨hno, hm⟩ | ⟨htwo, o, v, hm⟩
  · rcases checkAssigned_spec d c.shape fs with ⟨hfree, hc⟩ | ⟨hclash, o, v, hc⟩
    · refine .inl ⟨hno, hfree, ?_⟩
      simp only [bind, Except.bind, hm, hc]
      exact ⟨_, rfl⟩
    · refine .inr ⟨.inr hclash, o, v, ?_⟩
      simp only [bind, Except.bind, hm, hc]
  · refine .inr ⟨.inl htwo, o, v, ?_⟩
    simp only [bind, Except.bind, hm]

end ClassPlan

end DomainModel
