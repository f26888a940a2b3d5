import DomainModel.Proofs.Generation.Planned

/-!
# What a plan is made of

`exists_outline` takes a planned class apart into the check of its declaration, the fragments that the
directives give, and the members and names that were found free to use.
-/

namespace DomainModel

/-! ## Fragments -/

namespace Role

/-- The contract that a class with the role builds on; an entity with events is the root of them. -/
def base (publishes : Bool) : Role → Contract
  | entity => if publishes then .aggregateRoot else .entity
  | valueObject => .valueObject
  | domainEvent => .domainEvent
  | domainEvents => .domainEvents
  | command => .command
  | query => .query

/-- The members that the contract of a value object or its user supplies. -/
def reserved : Role → List String
  | valueObject => ["validate", "value"]
  | entity | domainEvent | domainEvents | command | query => []

end Role

structure Furnishes (a : Applied) (f : Fragment) : Prop where
  owner : f.owner = a.descriptor.name
  base : f.base = a.role.base a.directive.events?.isSome
  reserved : f.reserved = a.role.reserved
  error : f.error = if a.role = .valueObject then some (.ofOwner a.descriptor.name) else none
  payload : f.payload = if a.role = .domainEvents then some .domainEvent else none

theorem bind_eq_ok_iff {α β ε : Type} {x : Except ε α} {k : α → Except ε β} {b : β} :
    (x >>= k) = .ok b ↔ ∃ a, x = .ok a ∧ k a = .ok b := by
  cases x with
  | error e => simp [bind, Except.bind]
  | ok a => simp [bind, Except.bind]

theorem map_eq_ok_iff {α β ε : Type} {x : Except ε α} {f : α → β} {b : β} :
    x.map f = .ok b ↔ ∃ a, x = .ok a ∧ f a = b := by
  cases x with
  | error e => simp [Except.map]
  | ok a => simp [Except.map]

theorem furnishes_of_fragment {a : Applied} {f : Fragment} (h : a.fragment = .ok f) : Furnishes a f := by
  rw [Applied.fragment] at h
  cases hr : a.role with
  | entity =>
    simp only [hr, Fragment.ofEntity, bind_eq_ok_iff] at h
    obtain ⟨id, -, version, -, h⟩ := h
    cases h
    exact ⟨rfl, by rw [hr]; rfl, by rw [hr]; rfl, by rw [hr]; rfl, by rw [hr]; rfl⟩
  | valueObject =>
    simp only [hr, Fragment.ofValueObject] at h
    split at h
    · cases h
    · cases h
      exact ⟨rfl, by rw [hr]; rfl, by rw [hr]; rfl, by rw [hr]; rfl, by rw [hr]; rfl⟩
  | domainEvent =>
    simp only [hr, Fragment.ofDomainEvent, bind_eq_ok_iff] at h
    obtain ⟨occurred, -, id, -, aggregate, -, version, -, h⟩ := h
    cases h
    exact ⟨rfl, by rw [hr]; rfl, by rw [hr]; rfl, by rw [hr]; rfl, by rw [hr]; rfl⟩
  | domainEvents =>
    rw [hr] at h
    cases h
    exact ⟨rfl, by rw [hr]; rfl, by rw [hr]; rfl, by rw [hr]; rfl, by rw [hr]; rfl⟩
  | command =>
    rw [hr] at h
    cases h
    exact ⟨rfl, by rw [hr]; rfl, by rw [hr]; rfl, by rw [hr]; rfl, by rw [hr]; rfl⟩
  | query =>
    rw [hr] at h
    cases h
    exact ⟨rfl, by rw [hr]; rfl, by rw [hr]; rfl, by rw [hr]; rfl, by rw [hr]; rfl⟩

theorem contributes_of_fragment {a : Applied} {f : Fragment} (hc : a.role.fault? a.descriptor = none)
    (h : a.fragment = .ok f) : Contributes a f := by
  obtain ⟨g, hg, hcontributes⟩ := exists_fragment hc
  rw [Except.ok.inj (h.symm.trans hg)]
  exact hcontributes

/-! ## Plans -/

instance (d : Declaration) (r : Role) : Decidable (d.Carries r) := inferInstanceAs (Decidable (_ ∈ _))

structure Stems (d : Declaration) (a : Applied) (f : Fragment) : Prop where
  fits : Fits d a
  gives : a.fragment = .ok f
  contributes : Contributes a f
  furnishes : Furnishes a f

theorem forall₂_of_mapM_eq_ok {α β ε : Type} {f : α → Except ε β} {xs : List α} {ys : List β}
    (h : xs.mapM f = .ok ys) : List.Forall₂ (fun x y => f x = .ok y) xs ys := by
  have heach := exists_of_mapM_eq_ok h
  obtain ⟨zs, hzs, hall⟩ := mapM_eq_ok (R := fun x y => f x = .ok y) fun x hx =>
    (heach x hx).imp fun y hy => ⟨hy, hy⟩
  rw [Except.ok.inj (h.symm.trans hzs)]
  exact hall

theorem forall₂_stems {d : Declaration} {roles : List Applied} {fs : List Fragment} (hc : d.check = .ok roles)
    (h : ClassPlan.fragments d = .ok fs) : List.Forall₂ (Stems d) roles fs := by
  have hfits := (Declaration.check_eq_ok_iff.mp hc).2.1
  rw [ClassPlan.fragments, hc] at h
  have hall := (List.forall₂_and_left _ _).mpr ⟨hfits, forall₂_of_mapM_eq_ok h⟩
  refine hall.imp fun a f hf => ?_
  have hgives := mapError_eq_ok_iff.mp hf.2
  exact ⟨hf.1, hgives, contributes_of_fragment hf.1.conditions hgives, furnishes_of_fragment hgives⟩

/-- The check of a declaration, its fragments and the class that is planned from them. -/
structure Outline (d : Declaration) (c : Descriptor) (roles : List Applied) (fs : List Fragment) (p : ClassPlan) :
    Prop where
  describes : d.describe = .ok c
  checks : d.check = .ok roles
  stems : List.Forall₂ (Stems d) roles fs
  planned : Planned d fs
  single : ¬(d.Carries .entity ∧ d.Carries .domainEvent)
  free : ¬ClassPlan.Clashes c.shape fs
  plan : p =
    { name := d.name
      bases := (fs.map (·.base)).eraseDups
      docs := c.docs
      layout := ClassPlan.layOut c.shape
        ((ClassPlan.suppliedBy fs).map ClassPlan.Supplied.name ++ fs.flatMap (·.reserved)) (fs.findSome? (·.payload))
      supplied := (ClassPlan.suppliedBy fs).map (·.member)
      errors := fs.filterMap (·.error)
      events := fs.filterMap (·.events) }

theorem exists_outline {d : Declaration} {p : ClassPlan} (h : ClassPlan.ofDeclaration d = .ok p) :
    ∃ c roles fs, Outline d c roles fs p := by
  rw [ClassPlan.ofDeclaration, bind_eq_ok_iff] at h
  obtain ⟨c, hd, h⟩ := h
  rw [bind_eq_ok_iff] at h
  obtain ⟨fs, hfs, h⟩ := h
  have hchecks : ∃ roles, d.check = .ok roles := by
    rw [ClassPlan.fragments, bind_eq_ok_iff] at hfs
    exact hfs.imp fun roles hr => hr.1
  obtain ⟨roles, hc⟩ := hchecks
  obtain ⟨gs, hgs, hplanned⟩ := exists_planned hc
  obtain rfl := Except.ok.inj (hfs.symm.trans hgs)
  -- what follows would have failed otherwise
  rcases ClassPlan.merge_spec hplanned with ⟨hno, hm⟩ | ⟨-, o, v, hm⟩
  · rcases ClassPlan.checkAssigned_spec d c.shape fs with ⟨hfree, ha⟩ | ⟨-, o, v, ha⟩
    · simp only [hm, ha, bind, Except.bind, pure, Except.pure] at h
      exact ⟨c, roles, fs, mapError_eq_ok_iff.mp hd, hc, forall₂_stems hc hfs, hplanned, hno, hfree,
        (Except.ok.inj h).symm⟩
    · simp only [hm, ha, bind, Except.bind] at h
      cases h
  · simp only [hm, bind, Except.bind] at h
    cases h

theorem filterMap_eq_of_nodup {α β γ : Type} [DecidableEq γ] {xs : List α} {key : α → γ} {k : γ} {g : α → Option β}
    (hn : (xs.map key).Nodup) (hg : ∀ x ∈ xs, key x ≠ k → g x = none) :
    xs.filterMap g = ((xs.find? (key · = k)).bind g).toList := by
  induction xs with
  | nil => rfl
  | cons x xs ih =>
    rw [List.map_cons, List.nodup_cons] at hn
    by_cases hx : key x = k
    · have hrest : xs.filterMap g = [] := List.filterMap_eq_nil_iff.mpr fun y hy =>
        hg y (List.mem_cons_of_mem _ hy) fun hk => hn.1 (hx.trans hk.symm ▸ List.mem_map_of_mem hy)
      rw [List.find?_cons, decide_eq_true hx, List.filterMap_cons, hrest]
      cases hgx : g x with
      | none => simp [hgx]
      | some b => simp [hgx]
    · rw [List.find?_cons, decide_eq_false hx, List.filterMap_cons, hg x List.mem_cons_self hx]
      exact ih hn.2 fun y hy => hg y (List.mem_cons_of_mem _ hy)

theorem Role.eq_of_base_eq {r r' : Role} {b b' : Bool} (h : r.base b = r'.base b') : r = r' := by
  revert h
  cases b <;> cases b' <;> cases r <;> cases r' <;> decide

namespace Outline
variable {d : Declaration} {c : Descriptor} {roles : List Applied} {fs : List Fragment} {p : ClassPlan} {r : Role}

theorem stem_of_mem (h : Outline d c roles fs p) {f : Fragment} (hf : f ∈ fs) :
    ∃ a, Stems d a f ∧ d.Carries a.role ∧ a.descriptor = c := by
  obtain ⟨a, hs⟩ := exists_of_forall₂ h.stems f hf
  exact ⟨a, hs, h.planned.carries_of_stems hf hs.fits hs.contributes,
    Except.ok.inj (hs.fits.describes.symm.trans h.describes)⟩

theorem stem_of_carries (h : Outline d c roles fs p) {r : Role} (hr : d.Carries r) :
    ∃ f ∈ fs, ∃ a, Stems d a f ∧ a.role = r ∧ a.descriptor = c := by
  obtain ⟨f, hf, b, hb, hcontributes, rfl⟩ := h.planned.exists_of_carries hr
  obtain ⟨a, hs, -, hc⟩ := h.stem_of_mem hf
  exact ⟨f, hf, a, hs, hs.contributes.role.symm.trans hcontributes.role, hc⟩

theorem fault?_of_carries (h : Outline d c roles fs p) {r : Role} (hr : d.Carries r) : r.fault? c = none := by
  obtain ⟨f, -, a, hs, rfl, rfl⟩ := h.stem_of_carries hr
  exact hs.fits.conditions

theorem nodup_roles (h : Outline d c roles fs p) : (fs.map (·.role)).Nodup := by
  have hnames := h.planned.nodup
  rw [← h.planned.directives, List.map_map] at hnames
  refine List.pairwise_map.mpr ((List.pairwise_map.mp hnames).imp_of_mem fun {f f'} hf hf' hne he => hne ?_)
  obtain ⟨a, hs, -⟩ := h.stem_of_mem hf
  obtain ⟨a', hs', -⟩ := h.stem_of_mem hf'
  have hrole : a.role = a'.role := hs.contributes.role.symm.trans (he.trans hs'.contributes.role)
  change f.directive.name = f'.directive.name
  rw [hs.contributes.directive, hs'.contributes.directive, Role.text_of_ofName? hs.fits.role,
    Role.text_of_ofName? hs'.fits.role, hrole]

theorem filterMap_eq (h : Outline d c roles fs p) {β : Type} {g : Fragment → Option β}
    (hg : ∀ f ∈ fs, f.role ≠ r → g f = none) : fs.filterMap g = ((fs.find? (·.role = r)).bind g).toList :=
  filterMap_eq_of_nodup h.nodup_roles hg

end Outline

end DomainModel
