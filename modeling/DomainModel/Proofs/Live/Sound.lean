import DomainModel.Proofs.Generation.Members
import DomainModel.Proofs.Live.Embodied
import DomainModel.Proofs.Source.Content

/-!
# Modules whose names are in nobody's way

In a module that comes from a file with unobtrusive names, no statement takes a name that the module uses otherwise.
-/

namespace DomainModel

/-- The names that the statements of a module bind after its imports. -/
def Module.assigned (m : Module) : List String :=
  Live.Loading.annotationsName :: (m.classes.flatMap fun p => p.errors.map (·.name))
    ++ (m.classes.flatMap fun p => p.name :: p.variants.map (ClassPlan.variantClass p.name)) ++ m.synonyms.map (·.name)

structure Module.Sound (m : Module) : Prop where
  clear : ∀ p ∈ m.classes, ∃ d, Clear m.references d p
  names : (m.classes.map (·.name) ++ m.synonyms.map (·.name)).Nodup
  synonyms : ∀ s ∈ m.synonyms, isInternal s.name = false ∧ s.name ∉ m.references
  errors : ∀ p ∈ m.classes, ∀ e ∈ p.errors, e = .ofOwner p.name ∧ e.name ∈ m.references

variable {text : String} {file : Option String} {ds : List Declaration} {contracts : String} {m : Module} {n : String}

theorem names_perm {parts : List Module.Part} (h : List.Forall₂ Becomes ds parts) :
    ((parts.filterMap Module.Part.plan?).map (·.name) ++ (parts.filterMap Module.Part.synonym?).map (·.name)).Perm
      (ds.map (·.name)) := by
  induction h with
  | nil => exact .nil
  | @cons d x ds parts hx _ ih =>
    cases hx with
    | cls p hname hvariants hbases herrors hrejects =>
      rw [Module.Part.plans_cls, Module.Part.synonyms_cls, List.map_cons, List.map_cons, hname]
      exact .cons _ ih
    | synonym s hname hkind hvariants hplain =>
      rw [Module.Part.plans_synonym, Module.Part.synonyms_synonym, List.map_cons, List.map_cons, hname]
      exact List.perm_middle.trans (.cons _ ih)

theorem names_of_module (h : parse text file = .ok ds) (hm : Module.ofDeclarations ds contracts = .ok m) :
    (m.classes.map (·.name) ++ m.synonyms.map (·.name)).Perm (ds.map (·.name)) := by
  obtain ⟨parts, hparts, rfl⟩ := becomes_of_module (holdsOwnParts_of_parse h) hm
  exact names_perm hparts

theorem plans_of_module (hm : Module.ofDeclarations ds contracts = .ok m) :
    (∀ p ∈ m.classes, ∃ d ∈ ds, ClassPlan.ofDeclaration d = .ok p) ∧
      ∀ d ∈ ds, d.kind ≠ .synonym → ∃ p ∈ m.classes, ClassPlan.ofDeclaration d = .ok p := by
  rw [Module.ofDeclarations, bind_eq_ok_iff] at hm
  obtain ⟨parts, hparts, hm⟩ := hm
  have hpart : ∀ d x, d.kind ≠ .synonym → Module.part d = .ok x → ∃ p, x = .cls p ∧ ClassPlan.ofDeclaration d = .ok p := by
    intro d x hk hx
    have hmap : Module.part d = (ClassPlan.ofDeclaration d).map .cls := by
      cases hkind : d.kind with
      | record => exact Module.part_eq_of_record hkind
      | sum => exact Module.part_eq_of_sum hkind
      | synonym => exact absurd hkind hk
    rw [hmap] at hx
    cases hp : ClassPlan.ofDeclaration d with
    | error e =>
      rw [hp] at hx
      cases hx
    | ok p =>
      rw [hp] at hx
      cases hx
      exact ⟨p, rfl, rfl⟩
  have hall := forall₂_of_mapM_eq_ok hparts
  rw [← Except.ok.inj hm]
  refine ⟨fun p hp => ?_, fun d hd hk => ?_⟩
  · obtain ⟨x, hx, hplan⟩ := List.mem_filterMap.mp hp
    obtain ⟨d, hd, hpartd⟩ := exists_mem_of_forall₂ hall.flip x hx
    refine ⟨d, hd, ?_⟩
    by_cases hk : d.kind = .synonym
    · rw [Module.part, hk, bind_eq_ok_iff] at hpartd
      obtain ⟨roles, -, hpartd⟩ := hpartd
      cases hpartd
      cases hplan
    · obtain ⟨q, rfl, hq⟩ := hpart d x hk hpartd
      exact Option.some.inj hplan ▸ hq
  · obtain ⟨x, hx, hpartd⟩ := exists_mem_of_forall₂ hall d hd
    obtain ⟨q, rfl, hq⟩ := hpart d x hk hpartd
    exact ⟨q, List.mem_filterMap.mpr ⟨_, hx, rfl⟩, hq⟩

theorem clear_of_plan (h : parse text file = .ok ds) (hu : Unobtrusive ds m) {d : Declaration} {p : ClassPlan} (hd : d ∈ ds)
    (hp : p ∈ m.classes) (hplan : ClassPlan.ofDeclaration d = .ok p) : Clear m.references d p :=
  ⟨exists_outline hplan, holdsOwnParts_of_parse h d hd, wellNamed_of_parse h d hd, fun n hn => (hu d hd n hn).1,
    fun n hn => (hu d hd n hn).2, fun _ hn => List.mem_flatMap.mpr ⟨p, hp, hn⟩⟩

theorem directives_eq_nil (hm : Module.ofDeclarations ds contracts = .ok m) {d : Declaration} (hd : d ∈ ds)
    (hk : d.kind = .synonym) : d.directives = [] := by
  rw [Module.ofDeclarations, bind_eq_ok_iff] at hm
  obtain ⟨parts, hparts, -⟩ := hm
  obtain ⟨x, hx⟩ := exists_of_mapM_eq_ok hparts d hd
  rw [Module.part, hk, bind_eq_ok_iff] at hx
  obtain ⟨roles, hcheck, -⟩ := hx
  exact Module.directives_eq_nil_of_synonym hk hcheck

theorem kind_ne_synonym_of_carries (hm : Module.ofDeclarations ds contracts = .ok m) {d : Declaration} (hd : d ∈ ds) {r : Role}
    (hr : d.Carries r) : d.kind ≠ .synonym := by
  intro hk
  rw [Declaration.Carries, directives_eq_nil hm hd hk] at hr
  cases hr

theorem exists_plan (h : parse text file = .ok ds) (hm : Module.ofDeclarations ds contracts = .ok m)
    (hu : Unobtrusive ds m) {d : Declaration} (hd : d ∈ ds) (hk : d.kind ≠ .synonym) :
    ∃ p ∈ m.classes, Clear m.references d p := by
  obtain ⟨p, hp, hplan⟩ := (plans_of_module hm).2 d hd hk
  exact ⟨p, hp, clear_of_plan h hu hd hp hplan⟩

theorem sound_of_parse (h : parse text file = .ok ds) (hm : Module.ofDeclarations ds contracts = .ok m)
    (hu : Unobtrusive ds m) : m.Sound := by
  have hown := holdsOwnParts_of_parse h
  have hclear : ∀ p ∈ m.classes, ∃ d ∈ ds, Clear m.references d p := by
    intro p hp
    obtain ⟨d, hd, hplan⟩ := (plans_of_module hm).1 p hp
    exact ⟨d, hd, clear_of_plan h hu hd hp hplan⟩
  obtain ⟨parts, hparts, hparts'⟩ := becomes_of_module hown hm
  refine ⟨fun p hp => (hclear p hp).imp fun d hd => hd.2, ?_, fun s hs => ?_, fun p hp e he => ?_⟩
  · exact (names_of_module h hm).nodup_iff.mpr (nodup_of_parse h)
  · rw [hparts'] at hs
    obtain ⟨x, hx, hsynonym⟩ := List.mem_filterMap.mp hs
    obtain ⟨d, hd, hbecomes⟩ := exists_mem_of_forall₂ hparts.flip x hx
    cases hbecomes with
    | cls q hname hvariants hbases herrors hrejects => cases hsynonym
    | synonym t hname hkind hvariants hplain =>
      obtain rfl := Option.some.inj hsynonym
      rw [hname]
      exact hu d hd d.name List.mem_cons_self
  · obtain ⟨d, -, hd⟩ := hclear p hp
    obtain ⟨c, roles, fs, ho⟩ := hd.outline
    rw [ho.errors_eq] at he
    split at he
    · next hr =>
      obtain ⟨f, hf, a, hs, ha, hac⟩ := ho.stem_of_carries hr
      obtain ⟨value, hmembers⟩ := members_of_valueObject hs.gives ha
      have htry : .tryFrom a.descriptor.name value.name value.type.annotation (ValueError.ofOwner a.descriptor.name).name
          ∈ f.members := by
        rw [hmembers]
        simp
      have hreference := List.mem_flatMap_of_mem (f := Member.references) (ho.mem_supplied_of_mem hf htry)
        (List.mem_cons_of_mem _ List.mem_cons_self)
      rw [hac, ho.name_eq] at hreference
      rw [List.mem_singleton.mp he, hd.name_eq]
      exact ⟨rfl, List.mem_flatMap.mpr ⟨p, hp, List.mem_append_right _ hreference⟩⟩
    · cases he

namespace Module.Sound
variable (h : m.Sound)
include h

theorem isInternal_name {p : ClassPlan} (hp : p ∈ m.classes) : isInternal p.name = false ∧ p.name ∉ m.references := by
  obtain ⟨d, hd⟩ := h.clear p hp
  rw [hd.name_eq]
  exact ⟨hd.internal _ List.mem_cons_self, hd.free _ List.mem_cons_self⟩

theorem nodup_classes : (m.classes.map (·.name)).Nodup := (List.nodup_append.mp h.names).1

/-- No statement takes a name that the module refers to, unless it is that of an error or starts with an underscore. -/
theorem not_mem_assigned (hn : n ∈ m.references) (hi : isInternal n = false) (hv : ¬"ValidationError".toList <:+ n.toList) :
    n ∉ m.assigned := by
  simp only [Module.assigned, List.mem_append, List.mem_cons, not_or]
  refine ⟨⟨⟨?_, ?_⟩, ?_⟩, ?_⟩
  · rintro rfl
    exact absurd hi (by decide)
  · intro hmem
    obtain ⟨p, hp, hmem⟩ := List.mem_flatMap.mp hmem
    obtain ⟨e, he, rfl⟩ := List.mem_map.mp hmem
    refine hv ?_
    rw [(h.errors p hp e he).1, ValueError.ofOwner, String.toList_append]
    exact List.suffix_append _ _
  · intro hmem
    obtain ⟨p, hp, hmem⟩ := List.mem_flatMap.mp hmem
    rcases List.mem_cons.mp hmem with rfl | hmem
    · exact (h.isInternal_name hp).2 hn
    · obtain ⟨v, -, rfl⟩ := List.mem_map.mp hmem
      rw [isInternal, ClassPlan.variantClass, String.toList_append, String.toList_append] at hi
      exact absurd hi (by simp)
  · intro hmem
    obtain ⟨s, hs, rfl⟩ := List.mem_map.mp hmem
    exact (h.synonyms s hs).2 hn

theorem error_spec {e : ValueError} (he : e ∈ m.classes.flatMap (·.errors)) : (∃ p ∈ m.classes, e = .ofOwner p.name) ∧
    e.name ∈ m.references ∧ e.name ∈ m.assigned ∧ isInternal e.name = false := by
  obtain ⟨p, hp, he⟩ := List.mem_flatMap.mp he
  obtain ⟨howner, href⟩ := h.errors p hp e he
  refine ⟨⟨p, hp, howner⟩, href, ?_, ?_⟩
  · simp only [Module.assigned, List.cons_append, List.mem_cons, List.mem_append]
    exact .inr (.inl (.inl (List.mem_flatMap.mpr ⟨p, hp, List.mem_map_of_mem he⟩)))
  · have hi := (h.isInternal_name hp).1
    rw [isInternal, decide_eq_false_iff_not] at hi ⊢
    rw [howner, ValueError.ofOwner, String.toList_append]
    cases hname : p.name.toList with
    | nil => decide
    | cons a as =>
      rw [hname] at hi
      exact hi

end Module.Sound

end DomainModel
