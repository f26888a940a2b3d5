import DomainModel.Proofs.Generation.Binding

/-!
# Names that a module binds

The statements of a generated module bind what it imports, the errors of its value objects, its classes with those
of their variants, and its synonyms. `module_names_nodup_iff` says when no name is bound twice, and that every
class then builds on the contracts of its directives and raises its own error.
-/

namespace DomainModel

/-! ## What the statements bind -/

inductive Meaning
  | tool
  | contract (c : Contract)
  | error (e : ValueError)
  | cls (p : ClassPlan)
  | variant (sum : String) (v : Variant)
  | synonym (s : Synonym)

abbrev Binder := String × Meaning

/-- What a name stands for after some statements is what it was bound to last. -/
def meaning? (n : String) (bs : List Binder) : Option Meaning := (bs.reverse.find? (·.1 = n)).map (·.2)

/-- The names that a module has from imports, besides contracts, and from what a local import needs. -/
def Module.tools (isLocal : Bool) : List String :=
  ["_copy"] ++ (if isLocal then ["sys", "Path"] else []) ++ ["ClassVar", "TypeAlias", "UUID"]
    ++ if isLocal then ["_runtime_path", "_added_to_path"] else []

def Module.imports (isLocal : Bool) : List Binder :=
  (tools isLocal).map (·, .tool) ++ Contract.imported.map fun c => (c.text, .contract c)

def ClassPlan.binders (p : ClassPlan) : List Binder :=
  (p.name, .cls p) :: p.variants.map fun v => (variantClass p.name v, .variant p.name v)

/-- What the statements of a module bind, in their order. -/
def Module.binders (m : Module) : List Binder :=
  imports m.isLocal ++ m.classes.flatMap (fun p => p.errors.map fun e => (e.name, .error e))
    ++ m.classes.flatMap ClassPlan.binders ++ m.synonyms.map fun s => (s.name, .synonym s)

/-- The names that the statements of a module bind, once for each time. -/
def Module.bound (m : Module) : List String := m.binders.map (·.1)

/-! ## What declarations have bound -/

namespace Declaration

def errors (d : Declaration) : List String :=
  if d.Carries .valueObject then [(ValueError.ofOwner d.name).name] else []

def variantClasses (d : Declaration) : List String := d.variants.map (ClassPlan.variantClass d.name)

def contracts (d : Declaration) : List Contract :=
  d.directives.filterMap fun x => (Role.ofName? x.name).map (·.base x.events?.isSome)

end Declaration

/-- Two statements bind one name: an import and something declared, or two names of which one is derived. -/
inductive Meets (imported : List String) (ds : List Declaration) : Prop
  | declared {d : Declaration} (hd : d ∈ ds) (h : d.name ∈ imported)
  | importedVariant {d : Declaration} {v : Variant} (hd : d ∈ ds) (hv : v ∈ d.variants)
      (h : ClassPlan.variantClass d.name v ∈ imported)
  /-- The error of a value object of this name is imported. -/
  | importedError {d : Declaration} (hd : d ∈ ds) (hv : d.Carries .valueObject) (h : d.name = "Value")
  | declaredError {d d' : Declaration} (hd : d ∈ ds) (hd' : d' ∈ ds) (hv : d.Carries .valueObject)
      (h : d'.name = d.name ++ "ValidationError")
  | declaredVariant {d d' : Declaration} {v : Variant} (hd : d ∈ ds) (hd' : d' ∈ ds) (hv : v ∈ d.variants)
      (h : d'.name = ClassPlan.variantClass d.name v)
  | variantError {d d' : Declaration} {v : Variant} (hd : d ∈ ds) (hd' : d' ∈ ds) (hv : v ∈ d.variants)
      (hv' : d'.Carries .valueObject) (h : ClassPlan.variantClass d.name v = d'.name ++ "ValidationError")
  /-- The names of two sums part differently before those of their variants. -/
  | variants {d d' : Declaration} {v v' : Variant} (hd : d ∈ ds) (hd' : d' ∈ ds) (hv : v ∈ d.variants)
      (hv' : v' ∈ d'.variants) (hne : d.name ≠ d'.name)
      (h : ClassPlan.variantClass d.name v = ClassPlan.variantClass d'.name v')

/-! ## Names that are put together -/

variable {m n : String} {b : Bool}

theorem errorName_injective : Function.Injective fun n => (ValueError.ofOwner n).name := by
  intro m n h
  have := congrArg String.toList h
  simp only [ValueError.ofOwner, String.toList_append] at this
  exact String.toList_inj.mp (List.append_cancel_right this)

theorem variantClass_injective (sum : String) {v v' : Variant}
    (h : ClassPlan.variantClass sum v = ClassPlan.variantClass sum v') : v.name = v'.name := by
  have := congrArg String.toList h
  simp only [ClassPlan.variantClass, String.toList_append] at this
  exact String.toList_inj.mp (List.append_cancel_left this)

theorem nodup_imports (b : Bool) : ((Module.imports b).map (·.1)).Nodup := by
  cases b <;> decide

/-- Of the imported names only one is that of an error. -/
theorem errorName_mem_imports_iff :
    (ValueError.ofOwner n).name ∈ (Module.imports b).map (·.1) ↔ n = "Value" := by
  constructor
  · intro h
    have hends : "ValidationError".toList <:+ (ValueError.ofOwner n).name.toList := by
      rw [ValueError.ofOwner, String.toList_append]
      exact List.suffix_append _ _
    have honly : ∀ x ∈ (Module.imports b).map (·.1), "ValidationError".toList <:+ x.toList →
        x = (ValueError.ofOwner "Value").name := by
      cases b <;> decide
    exact errorName_injective (honly _ h hends)
  · rintro rfl
    cases b <;> decide

theorem eraseDups_of_nodup {α : Type} [BEq α] [LawfulBEq α] {xs : List α} (h : xs.Nodup) : xs.eraseDups = xs := by
  induction xs with
  | nil => rfl
  | cons x xs ih =>
    rw [List.nodup_cons] at h
    have hkeep : xs.filter (fun y => !y == x) = xs := by
      refine List.filter_eq_self.mpr fun y hy => ?_
      rw [Bool.not_eq_true', beq_eq_false_iff_ne]
      rintro rfl
      exact h.1 hy
    rw [List.eraseDups_cons, hkeep, ih h.2]

/-! ## A class and its declaration -/

namespace Outline
variable {d : Declaration} {c : Descriptor} {roles : List Applied} {fs : List Fragment} {p : ClassPlan}

theorem name_eq (h : Outline d c roles fs p) : c.name = d.name := by
  have hd := h.describes
  cases hk : d.kind with
  | record =>
    rw [Declaration.describe, hk] at hd
    rw [← Except.ok.inj hd]
  | sum =>
    rw [Declaration.describe, hk] at hd
    rw [← Except.ok.inj hd]
  | synonym =>
    rw [Declaration.describe, hk] at hd
    cases hd

theorem errors_eq (h : Outline d c roles fs p) :
    p.errors = if d.Carries .valueObject then [.ofOwner d.name] else [] := by
  have herror : ∀ f ∈ fs, f.error = if f.role = .valueObject then some (.ofOwner d.name) else none := by
    intro f hf
    obtain ⟨a, hs, -, ha⟩ := h.stem_of_mem hf
    rw [hs.furnishes.error, hs.contributes.role, ha, h.name_eq]
  have herrors : p.errors = ((fs.find? (·.role = .valueObject)).bind (·.error)).toList := by
    rw [h.plan]
    exact h.filterMap_eq fun f hf hr => by rw [herror f hf, if_neg hr]
  rw [herrors]
  cases hfind : fs.find? (·.role = .valueObject) with
  | none =>
    rw [if_neg]
    · rfl
    · intro hr
      obtain ⟨f, hf, a, hs, ha, -⟩ := h.stem_of_carries hr
      exact List.find?_eq_none.mp hfind f hf (decide_eq_true (hs.contributes.role.trans ha))
  | some f =>
    have hf := List.mem_of_find?_eq_some hfind
    have hr : f.role = .valueObject := by simpa using List.find?_some hfind
    obtain ⟨a, hs, hcarries, -⟩ := h.stem_of_mem hf
    rw [if_pos (hs.contributes.role.symm.trans hr ▸ hcarries), Option.bind_some, herror f hf, if_pos hr]
    rfl

theorem base_eq (h : Outline d c roles fs p) {f : Fragment} (hf : f ∈ fs) :
    f.base = f.role.base f.directive.events?.isSome ∧
      (Role.ofName? f.directive.name).map (·.base f.directive.events?.isSome) = some f.base := by
  obtain ⟨a, hs, -⟩ := h.stem_of_mem hf
  rw [hs.furnishes.base, hs.contributes.role, hs.contributes.directive, hs.fits.role]
  exact ⟨rfl, rfl⟩

theorem contracts_eq (h : Outline d c roles fs p) : d.contracts = fs.map (·.base) := by
  rw [Declaration.contracts, ← h.planned.directives, List.filterMap_map, ← List.filterMap_eq_map]
  exact List.filterMap_congr fun f hf => (h.base_eq hf).2

theorem nodup_contracts (h : Outline d c roles fs p) : d.contracts.Nodup := by
  rw [h.contracts_eq]
  refine List.pairwise_map.mpr ((List.pairwise_map.mp h.nodup_roles).imp_of_mem fun hf hf' hne he => hne ?_)
  rw [(h.base_eq hf).1, (h.base_eq hf').1] at he
  exact Role.eq_of_base_eq he

theorem bases_eq (h : Outline d c roles fs p) : p.bases = d.contracts := by
  rw [h.plan, ← h.contracts_eq]
  exact eraseDups_of_nodup h.nodup_contracts

theorem error_of_tryFrom (h : Outline d c roles fs p) {owner field annotation error : String}
    (hm : .tryFrom owner field annotation error ∈ p.supplied) :
    d.Carries .valueObject ∧ error = (ValueError.ofOwner d.name).name := by
  have hmem : ∃ f ∈ fs, .tryFrom owner field annotation error ∈ f.members := by
    rw [h.plan] at hm
    obtain ⟨x, hx, hm⟩ := List.mem_map.mp hm
    obtain ⟨f, hf, hx⟩ := List.mem_flatMap.mp hx
    obtain ⟨m, hmem, rfl⟩ := List.mem_map.mp hx
    exact ⟨f, hf, hm ▸ hmem⟩
  obtain ⟨f, hf, hm⟩ := hmem
  obtain ⟨a, hs, hcarries, ha⟩ := h.stem_of_mem hf
  by_cases hr : a.role = .valueObject
  · obtain ⟨value, hmembers⟩ := members_of_valueObject hs.gives hr
    rw [hmembers, ha, h.name_eq] at hm
    simp only [List.mem_cons, List.not_mem_nil, or_false, reduceCtorEq, false_or, Member.tryFrom.injEq] at hm
    exact ⟨hr ▸ hcarries, hm.2.2.2⟩
  · cases isOfValue_of_fragment hs.gives hr _ hm

end Outline

/-- What a declaration becomes has the names of the declaration. -/
inductive Becomes (d : Declaration) : Module.Part → Prop
  | cls (p : ClassPlan) (hname : p.name = d.name) (hvariants : p.variants = d.variants) (hbases : p.bases = d.contracts)
      (herrors : p.errors = if d.Carries .valueObject then [.ofOwner d.name] else [])
      (hrejects : ∀ owner field annotation error, .tryFrom owner field annotation error ∈ p.supplied →
        d.Carries .valueObject ∧ error = (ValueError.ofOwner d.name).name) : Becomes d (.cls p)
  | synonym (s : Synonym) (hname : s.name = d.name) (hkind : d.kind = .synonym) (hvariants : d.variants = [])
      (hplain : d.directives = []) : Becomes d (.synonym s)

theorem becomes_of_plan {d : Declaration} {p : ClassPlan} (hown : d.HoldsOwnParts)
    (h : ClassPlan.ofDeclaration d = .ok p) : Becomes d (.cls p) := by
  obtain ⟨c, roles, fs, ho⟩ := exists_outline h
  exact .cls p (by rw [ho.plan]) (ho.layout_eq hown).2.2.1 ho.bases_eq ho.errors_eq fun _ _ _ _ => ho.error_of_tryFrom

theorem becomes_of_part {d : Declaration} {x : Module.Part} (hown : d.HoldsOwnParts) (h : Module.part d = .ok x) :
    Becomes d x := by
  cases hk : d.kind with
  | record =>
    rw [Module.part_eq_of_record hk] at h
    obtain ⟨p, hp, rfl⟩ := map_eq_ok_iff.mp h
    exact becomes_of_plan hown hp
  | sum =>
    rw [Module.part_eq_of_sum hk] at h
    obtain ⟨p, hp, rfl⟩ := map_eq_ok_iff.mp h
    exact becomes_of_plan hown hp
  | synonym =>
    rw [Declaration.HoldsOwnParts, hk] at hown
    rw [Module.part, hk, bind_eq_ok_iff] at h
    obtain ⟨roles, hc, h⟩ := h
    cases h
    exact .synonym _ rfl hk hown.2.1 (Module.directives_eq_nil_of_synonym hk hc)

theorem becomes_of_module {ds : List Declaration} {contracts : String} {m : Module}
    (hown : ∀ d ∈ ds, d.HoldsOwnParts) (h : Module.ofDeclarations ds contracts = .ok m) :
    ∃ parts, List.Forall₂ Becomes ds parts ∧
      m = ⟨contracts, parts.filterMap Module.Part.plan?, parts.filterMap Module.Part.synonym?⟩ := by
  rw [Module.ofDeclarations, bind_eq_ok_iff] at h
  obtain ⟨parts, hparts, h⟩ := h
  refine ⟨parts, ?_, (Except.ok.inj h).symm⟩
  have hall := (List.forall₂_and_left _ _).mpr ⟨hown, forall₂_of_mapM_eq_ok hparts⟩
  exact hall.imp fun d x hx => becomes_of_part hx.1 hx.2

/-! ## Names of a module and its declarations -/

namespace Module.Part
variable (xs : List Part)

theorem plans_cls (p : ClassPlan) : (cls p :: xs).filterMap plan? = p :: xs.filterMap plan? := rfl
theorem plans_synonym (s : Synonym) : (synonym s :: xs).filterMap plan? = xs.filterMap plan? := rfl
theorem synonyms_cls (p : ClassPlan) : (cls p :: xs).filterMap synonym? = xs.filterMap synonym? := rfl
theorem synonyms_synonym (s : Synonym) : (synonym s :: xs).filterMap synonym? = s :: xs.filterMap synonym? := rfl

end Module.Part

theorem errors_eq_of_becomes {ds : List Declaration} {parts : List Module.Part} (h : List.Forall₂ Becomes ds parts) :
    (parts.filterMap Module.Part.plan?).flatMap (fun p => p.errors.map (·.name)) = ds.flatMap Declaration.errors := by
  induction h with
  | nil => rfl
  | cons hx _ ih =>
    rw [List.flatMap_cons, ← ih]
    cases hx with
    | cls p hname hvariants hbases herrors hrejects =>
      rw [Module.Part.plans_cls, List.flatMap_cons, herrors, Declaration.errors]
      congr 1
      split <;> rfl
    | synonym s hname hkind hvariants hplain =>
      rw [Module.Part.plans_synonym, Declaration.errors, if_neg]
      · rfl
      · rw [Declaration.Carries, hplain]
        exact List.not_mem_nil

theorem names_perm_of_becomes {ds : List Declaration} {parts : List Module.Part} (h : List.Forall₂ Becomes ds parts) :
    (((parts.filterMap Module.Part.plan?).flatMap fun p => p.name :: p.variants.map (ClassPlan.variantClass p.name))
      ++ (parts.filterMap Module.Part.synonym?).map (·.name)).Perm
      (ds.map (·.name) ++ ds.flatMap Declaration.variantClasses) := by
  induction h with
  | nil => exact .nil
  | @cons d x ds parts hx _ ih =>
    cases hx with
    | cls p hname hvariants hbases herrors hrejects =>
      rw [Module.Part.plans_cls, Module.Part.synonyms_cls, List.flatMap_cons, List.map_cons,
        List.flatMap_cons, hname, hvariants, List.cons_append, List.cons_append, List.cons_append]
      refine .cons _ ?_
      rw [List.append_assoc]
      exact (ih.append_left _).trans (List.perm_append_comm_assoc _ _ _)
    | synonym s hname hkind hvariants hplain =>
      rw [Module.Part.plans_synonym, Module.Part.synonyms_synonym, List.map_cons, List.map_cons,
        List.flatMap_cons, Declaration.variantClasses, hname, hvariants]
      exact List.perm_middle.trans (.cons _ ih)

theorem Module.bound_eq (m : Module) :
    m.bound = (imports m.isLocal).map (·.1) ++ (m.classes.flatMap (fun p => p.errors.map (·.name)) ++
      ((m.classes.flatMap fun p => p.name :: p.variants.map (ClassPlan.variantClass p.name))
        ++ m.synonyms.map (·.name))) := by
  simp only [bound, binders, ClassPlan.binders, List.map_append, List.map_flatMap, List.map_cons, List.map_map,
    List.append_assoc]
  rfl

/-- The statements of a module bind what is imported and what its declarations have bound. -/
theorem bound_perm {ds : List Declaration} {m : Module} {contracts : String}
    (hown : ∀ d ∈ ds, d.HoldsOwnParts) (h : Module.ofDeclarations ds contracts = .ok m) :
    m.bound.Perm ((Module.imports m.isLocal).map (·.1) ++ (ds.flatMap Declaration.errors ++
      (ds.map (·.name) ++ ds.flatMap Declaration.variantClasses))) := by
  obtain ⟨parts, hparts, hm⟩ := becomes_of_module hown h
  rw [Module.bound_eq, ← errors_eq_of_becomes hparts]
  refine .append_left _ ?_
  rw [hm]
  exact (names_perm_of_becomes hparts).append_left _

/-! ## Different names -/

section Meets
variable {ds : List Declaration} {imported : List String}

theorem mem_errors {d : Declaration} {n : String} :
    n ∈ d.errors ↔ d.Carries .valueObject ∧ n = (ValueError.ofOwner d.name).name := by
  rw [Declaration.errors]
  split
  · next h => rw [List.mem_singleton, and_iff_right h]
  · next h => simp only [List.not_mem_nil, h, false_and]

theorem nodup_errors (hnames : (ds.map (·.name)).Nodup) : (ds.flatMap Declaration.errors).Nodup := by
  rw [List.nodup_flatMap]
  refine ⟨fun d _ => ?_, (List.pairwise_map.mp hnames).imp fun hne n hn hn' => hne ?_⟩
  · rw [Declaration.errors]
    split
    · exact List.nodup_singleton _
    · exact List.nodup_nil
  · exact errorName_injective ((mem_errors.mp hn).2.symm.trans (mem_errors.mp hn').2)

theorem nodup_variantClasses {d : Declaration} (hw : Naming.WellNamed d) : d.variantClasses.Nodup := by
  have hdistinct := List.pairwise_map.mp hw.distinct_variants
  exact List.pairwise_map.mpr (hdistinct.imp fun hne he => hne (variantClass_injective d.name he))

theorem not_meets_of_nodup {b : Bool} (hn : ((Module.imports b).map (·.1) ++ (ds.flatMap Declaration.errors ++
      (ds.map (·.name) ++ ds.flatMap Declaration.variantClasses))).Nodup) :
    ¬Meets ((Module.imports b).map (·.1)) ds := by
  have hvariants : ∀ d ∈ ds, ∀ v ∈ d.variants, ClassPlan.variantClass d.name v ∈ ds.flatMap Declaration.variantClasses :=
    fun d hd v hv => List.mem_flatMap.mpr ⟨d, hd, List.mem_map_of_mem hv⟩
  have herrors : ∀ d ∈ ds, d.Carries .valueObject → (ValueError.ofOwner d.name).name ∈ ds.flatMap Declaration.errors :=
    fun d hd hv => List.mem_flatMap.mpr ⟨d, hd, mem_errors.mpr ⟨hv, rfl⟩⟩
  intro hmeets
  simp only [List.nodup_append, List.mem_append] at hn
  obtain ⟨-, ⟨-, ⟨-, hclasses, hdeclared⟩, herror⟩, himported⟩ := hn
  cases hmeets with
  | declared hd h => exact himported _ h _ (.inr (.inl (List.mem_map_of_mem hd))) rfl
  | importedVariant hd hv h => exact himported _ h _ (.inr (.inr (hvariants _ hd _ hv))) rfl
  | importedError hd hv h => exact himported _ (errorName_mem_imports_iff.mpr h) _ (.inl (herrors _ hd hv)) rfl
  | declaredError hd hd' hv h => exact herror _ (herrors _ hd hv) _ (.inl (List.mem_map_of_mem hd')) h.symm
  | declaredVariant hd hd' hv h => exact hdeclared _ (List.mem_map_of_mem hd') _ (hvariants _ hd _ hv) h
  | variantError hd hd' hv hv' h => exact herror _ (herrors _ hd' hv') _ (.inr (hvariants _ hd _ hv)) h.symm
  | @variants d d' v v' hd hd' hv hv' hne h =>
    have hdisjoint := (List.nodup_flatMap.mp hclasses).2
    have : Std.Symm (Function.onFun List.Disjoint Declaration.variantClasses) := ⟨fun _ _ ho _ hm hm' => ho hm' hm⟩
    refine hdisjoint.forall hd hd' (fun he => hne (he ▸ rfl)) (List.mem_map_of_mem hv) ?_
    rw [h]
    exact List.mem_map_of_mem hv'

theorem nodup_of_not_meets {b : Bool} (hnames : (ds.map (·.name)).Nodup) (hw : ∀ d ∈ ds, Naming.WellNamed d)
    (hno : ¬Meets ((Module.imports b).map (·.1)) ds) :
    ((Module.imports b).map (·.1) ++ (ds.flatMap Declaration.errors ++
      (ds.map (·.name) ++ ds.flatMap Declaration.variantClasses))).Nodup := by
  have hclasses : (ds.flatMap Declaration.variantClasses).Nodup := by
    rw [List.nodup_flatMap]
    refine ⟨fun d hd => nodup_variantClasses (hw d hd), (List.pairwise_map.mp hnames).imp_of_mem ?_⟩
    intro d d' hd hd' hne n hn hn'
    obtain ⟨v, hv, rfl⟩ := List.mem_map.mp hn
    obtain ⟨v', hv', he⟩ := List.mem_map.mp hn'
    exact hno (.variants hd hd' hv hv' hne he.symm)
  have hdeclared : (ds.map (·.name) ++ ds.flatMap Declaration.variantClasses).Nodup := by
    refine hnames.append hclasses fun n hn hn' => ?_
    obtain ⟨d', hd', rfl⟩ := List.mem_map.mp hn
    obtain ⟨d, hd, hn'⟩ := List.mem_flatMap.mp hn'
    obtain ⟨v, hv, he⟩ := List.mem_map.mp hn'
    exact hno (.declaredVariant hd hd' hv he.symm)
  have herror : (ds.flatMap Declaration.errors ++ (ds.map (·.name) ++ ds.flatMap Declaration.variantClasses)).Nodup := by
    refine (nodup_errors hnames).append hdeclared fun n hn hn' => ?_
    obtain ⟨d, hd, hn⟩ := List.mem_flatMap.mp hn
    obtain ⟨hv, rfl⟩ := mem_errors.mp hn
    rcases List.mem_append.mp hn' with hn' | hn'
    · obtain ⟨d', hd', he⟩ := List.mem_map.mp hn'
      exact hno (.declaredError hd hd' hv he)
    · obtain ⟨d', hd', hn'⟩ := List.mem_flatMap.mp hn'
      obtain ⟨v, hv', he⟩ := List.mem_map.mp hn'
      exact hno (.variantError hd' hd hv' hv he)
  refine (nodup_imports b).append herror fun n hn hn' => ?_
  rcases List.mem_append.mp hn' with hn' | hn'
  · obtain ⟨d, hd, hn'⟩ := List.mem_flatMap.mp hn'
    obtain ⟨hv, rfl⟩ := mem_errors.mp hn'
    exact hno (.importedError hd hv (errorName_mem_imports_iff.mp hn))
  rcases List.mem_append.mp hn' with hn' | hn'
  · obtain ⟨d, hd, rfl⟩ := List.mem_map.mp hn'
    exact hno (.declared hd hn)
  · obtain ⟨d, hd, hn'⟩ := List.mem_flatMap.mp hn'
    obtain ⟨v, hv, rfl⟩ := List.mem_map.mp hn'
    exact hno (.importedVariant hd hv hn)

theorem nodup_iff_not_meets (b : Bool) (hnames : (ds.map (·.name)).Nodup) (hw : ∀ d ∈ ds, Naming.WellNamed d) :
    ((Module.imports b).map (·.1) ++ (ds.flatMap Declaration.errors ++
      (ds.map (·.name) ++ ds.flatMap Declaration.variantClasses))).Nodup ↔ ¬Meets ((Module.imports b).map (·.1)) ds :=
  ⟨not_meets_of_nodup, nodup_of_not_meets hnames hw⟩

end Meets

/-! ## What names stand for -/

theorem meaning?_eq_some {bs : List Binder} {n : String} {x : Meaning} (hn : (bs.map (·.1)).Nodup) (h : (n, x) ∈ bs) :
    meaning? n bs = some x := by
  rw [meaning?]
  cases hfind : bs.reverse.find? (·.1 = n) with
  | none =>
    have := List.find?_eq_none.mp hfind (n, x) (List.mem_reverse.mpr h)
    exact (this (decide_eq_true rfl)).elim
  | some y =>
    have hy : y ∈ bs := List.mem_reverse.mp (List.mem_of_find?_eq_some hfind)
    have hname : y.1 = n := by simpa using List.find?_some hfind
    rw [List.inj_on_of_nodup_map hn hy h hname]
    rfl

theorem Role.base_mem_imported (r : Role) (b : Bool) : r.base b ∈ Contract.imported := by
  cases r <;> cases b <;> decide

/-- The statements of a module give a class what its declaration asks for: when it is made, its bases are the
contracts of the directives, and what it rejects a value with is its own error. -/
structure Resolves (m : Module) (d : Declaration) (p : ClassPlan) : Prop where
  name : p.name = d.name
  bases : p.bases = d.contracts
  contracts : ∀ before behind, m.binders = before ++ (p.name, .cls p) :: behind →
    ∀ c ∈ p.bases, meaning? c.text before = some (.contract c)
  error : ∀ owner field annotation error, .tryFrom owner field annotation error ∈ p.supplied →
    meaning? error m.binders = some (.error (.ofOwner d.name))

theorem mem_before_cls {m : Module} {p : ClassPlan} {before behind : List Binder} {c : Contract}
    (h : m.binders = before ++ (p.name, .cls p) :: behind) (hc : c ∈ Contract.imported) :
    (c.text, .contract c) ∈ before := by
  have himport : (c.text, .contract c) ∈ Module.imports m.isLocal :=
    List.mem_append_right _ (List.mem_map_of_mem hc)
  have hcls : (p.name, .cls p) ∉ Module.imports m.isLocal := by
    simp [Module.imports]
  simp only [Module.binders, List.append_assoc] at h
  rcases List.append_eq_append_iff.mp h with ⟨between, hbefore, -⟩ | ⟨between, himports, hrest⟩
  · rw [hbefore]
    exact List.mem_append_left _ himport
  · cases between with
    | nil => simpa [himports] using himport
    | cons x between =>
      rw [List.cons_append, List.cons.injEq] at hrest
      rw [himports, ← hrest.1] at hcls
      simp at hcls

theorem resolves_of_becomes {m : Module} {d : Declaration} {p : ClassPlan} (hn : m.bound.Nodup)
    (h : Becomes d (.cls p)) (hp : p ∈ m.classes) : Resolves m d p := by
  cases h with
  | cls _ hname hvariants hbases herrors hrejects =>
    refine ⟨hname, hbases, fun before behind hsplit c hc => ?_, fun owner field annotation error hm => ?_⟩
    · have himported : c ∈ Contract.imported := by
        rw [hbases] at hc
        obtain ⟨x, -, hx⟩ := List.mem_filterMap.mp hc
        obtain ⟨r, -, rfl⟩ := Option.map_eq_some_iff.mp hx
        exact r.base_mem_imported _
      refine meaning?_eq_some ?_ (mem_before_cls hsplit himported)
      rw [Module.bound, hsplit, List.map_append] at hn
      exact (List.nodup_append.mp hn).1
    · obtain ⟨hv, rfl⟩ := hrejects _ _ _ _ hm
      rw [if_pos hv] at herrors
      refine meaning?_eq_some hn ?_
      simp only [Module.binders, List.mem_append, List.mem_flatMap]
      refine .inl (.inl (.inr ⟨p, hp, ?_⟩))
      rw [herrors]
      exact List.mem_singleton.mpr rfl

theorem exists_mem_of_forall₂ {α β : Type} {R : α → β → Prop} {xs : List α} {ys : List β} (h : List.Forall₂ R xs ys) :
    ∀ x ∈ xs, ∃ y ∈ ys, R x y := by
  induction h with
  | nil => exact fun x hx => (List.not_mem_nil hx).elim
  | cons hR _ ih =>
    intro x hx
    rcases List.mem_cons.mp hx with rfl | hx
    · exact ⟨_, List.mem_cons_self, hR⟩
    · obtain ⟨y, hy, hR⟩ := ih x hx
      exact ⟨y, List.mem_cons_of_mem _ hy, hR⟩

/-- No statement of a module binds a name that another has bound, exactly if no imported, declared or derived names
meet; then every class builds on the contracts of its directives and raises its own error. -/
theorem module_names_nodup_iff {text : String} {file : Option String} {ds : List Declaration} {contracts : String}
    {m : Module} (h : parse text file = .ok ds) (hm : Module.ofDeclarations ds contracts = .ok m) :
    (m.bound.Nodup ↔ ¬Meets ((Module.imports m.isLocal).map (·.1)) ds) ∧
      (m.bound.Nodup → ∀ d ∈ ds, d.kind ≠ .synonym → ∃ p ∈ m.classes, Resolves m d p) := by
  have hown := holdsOwnParts_of_parse h
  refine ⟨?_, fun hn d hd hk => ?_⟩
  · rw [(bound_perm hown hm).nodup_iff]
    exact nodup_iff_not_meets _ (nodup_of_parse h) (wellNamed_of_parse h)
  · obtain ⟨parts, hparts, rfl⟩ := becomes_of_module hown hm
    obtain ⟨x, hx, hbecomes⟩ := exists_mem_of_forall₂ hparts d hd
    cases hbecomes with
    | synonym s hname hkind hvariants hplain => exact (hk hkind).elim
    | cls p hname hvariants hbases herrors hrejects =>
      have hp : p ∈ parts.filterMap Module.Part.plan? := List.mem_filterMap.mpr ⟨_, hx, rfl⟩
      exact ⟨p, hp, resolves_of_becomes hn (.cls p hname hvariants hbases herrors hrejects) hp⟩

theorem module_names_nodup_iff_value :
    ∃ d m p, parse "@value_object record V \x7b value: string \x7d" none = .ok [d] ∧
      Module.ofDeclarations [d] defaultContracts = .ok m ∧ ¬Meets ((Module.imports m.isLocal).map (·.1)) [d] ∧
        Resolves m d p ∧ d.contracts = [.valueObject] ∧ d.errors = ["VValidationError"] := by
  let d : Declaration :=
    { kind := .record, name := "V", directives := [⟨"value_object", [], some ⟨1, 2, none⟩⟩]
      fields := [⟨"value", ⟨"string", []⟩, .hidden, [], some ⟨1, 26, none⟩⟩]
      location := some ⟨1, 22, none⟩ }
  have h : parse "@value_object record V \x7b value: string \x7d" none = .ok [d] :=
    toOption_eq_some_iff.mp (by decide +kernel)
  obtain ⟨m, hm, hn⟩ : ∃ m, Module.ofDeclarations [d] defaultContracts = .ok m ∧ m.bound.Nodup :=
    ⟨_, rfl, by decide +kernel⟩
  obtain ⟨hiff, hresolves⟩ := module_names_nodup_iff h hm
  obtain ⟨p, -, hp⟩ := hresolves hn d List.mem_cons_self (by decide)
  exact ⟨d, m, p, h, hm, hiff.mp hn, hp, by cbv, by cbv⟩

/-- A record takes the name of the error that a value object raises. -/
theorem module_names_nodup_error :
    ∃ ds m, parse "@value_object record V \x7b value: string \x7d record VValidationError \x7b reason: string \x7d" none =
        .ok ds ∧ Module.ofDeclarations ds defaultContracts = .ok m ∧ ¬m.bound.Nodup ∧
      ∃ p, meaning? "VValidationError" m.binders = some (.cls p) := by
  refine ⟨[{ kind := .record, name := "V", directives := [⟨"value_object", [], some ⟨1, 2, none⟩⟩]
             fields := [⟨"value", ⟨"string", []⟩, .hidden, [], some ⟨1, 26, none⟩⟩]
             location := some ⟨1, 22, none⟩ },
           { kind := .record, name := "VValidationError"
             fields := [⟨"reason", ⟨"string", []⟩, .hidden, [], some ⟨1, 68, none⟩⟩]
             location := some ⟨1, 49, none⟩ }], _, ?_, rfl, ?_, _, rfl⟩
  · exact toOption_eq_some_iff.mp (by decide +kernel)
  · decide +kernel

end DomainModel
