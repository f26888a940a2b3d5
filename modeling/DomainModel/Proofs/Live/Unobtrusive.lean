import DomainModel.Proofs.Generation.Scope
import DomainModel.Proofs.Live.Body

/-!
# Names that get in nobody's way

The source of a module refers to names that it does not define: built-in ones, imported ones, and the errors of value
objects. If no declared name is one of them or starts with an underscore, the body of a class binds each of its names
once, and none of the names that it uses itself.
-/

namespace DomainModel

/-- Whether a name starts with an underscore. -/
def isInternal (name : String) : Bool := name.toList.head? = some '_'

def Declaration.declared (d : Declaration) : List String :=
  d.name :: (d.fields.map (·.name) ++ d.variants.map (·.name))

/-! ## What the source refers to -/

/-- The built-in and imported names, and the errors, that the source of a member refers to. -/
def Member.references : Member → List String
  | .accessor _ _ (.stored _) _ | .property _ _ _ => ["property"]
  | .accessor _ _ (.count _) _ => ["property", "int"]
  | .equality _ _ => ["isinstance", "NotImplemented"]
  | .hash _ => ["hash"]
  | .display _ => ["str"]
  | .clone _ _ => ["type", "_copy"]
  | .tryFrom _ _ _ error => ["classmethod", error]
  | .dispatch _ variants _ _ => "property" :: if variants.isEmpty then ["TypeError"] else []

def Layout.references : Layout → List String
  | .record _ assignable => assignable.flatMap fun f => (ClassPlan.fieldProperty f).references
  | .sum variants payload =>
    ["type", "TypeError", "property", "NotImplemented", "hash"] ++ variants.flatMap (fun _ => ["super"])
      ++ payload.toList.flatMap fun c => ["isinstance", c.text]

def ClassPlan.references (p : ClassPlan) : List String :=
  p.bases.map (·.text) ++ p.errors.map (fun _ => Contract.valueValidationError.text) ++ p.layout.references
    ++ p.supplied.flatMap Member.references

/-- The names that the statements of a module refer to besides those of its declarations. -/
def Module.references (m : Module) : List String := m.classes.flatMap ClassPlan.references

/-- No declared name starts with an underscore, or is one that the module refers to itself. -/
def Unobtrusive (ds : List Declaration) (m : Module) : Prop :=
  ∀ d ∈ ds, ∀ n ∈ d.declared, isInternal n = false ∧ n ∉ m.references

instance (ds : List Declaration) (m : Module) : Decidable (Unobtrusive ds m) :=
  inferInstanceAs (Decidable (∀ d ∈ ds, ∀ n ∈ d.declared, _))

/-! ## Names that a class spells as they are -/

variable {owner n : String} {v : Live.Value}

theorem toList_slot (n : String) : (slot n).toList = '_' :: n.toList := by
  rw [slot, String.toList_append]
  rfl

theorem isInternal_slot (n : String) : isInternal (slot n) = true := by
  rw [isInternal, toList_slot]
  rfl

def isSpecial (name : String) : Bool := ['_', '_'].isPrefixOf name.toList

theorem not_mem_of_eq_false {P : String → Bool} {l : List String} (h : P n = false) (hl : ∀ m ∈ l, P m = true) : n ∉ l := by
  intro hmem
  rw [hl n hmem] at h
  cases h

theorem isInternal_of_isSpecial (h : isSpecial n = true) : isInternal n = true := by
  obtain ⟨cs, hcs⟩ := List.isPrefixOf_iff_prefix.mp h
  rw [isInternal, ← hcs]
  rfl

theorem isSpecial_slot (h : isInternal n = false) : isSpecial (slot n) = false := by
  refine Bool.eq_false_iff.mpr fun hs => ?_
  obtain ⟨cs, hcs⟩ := List.isPrefixOf_iff_prefix.mp hs
  rw [toList_slot] at hcs
  rw [isInternal, ← (List.cons.inj hcs).2] at h
  exact absurd h (by simp)

theorem isPrivate_eq_false (h : isInternal n = false) :
    PrivateName.isPrivate n = false ∧ PrivateName.isPrivate (slot n) = false := by
  have hn : isSpecial n = false := Bool.eq_false_iff.mpr fun hs => by simp [isInternal_of_isSpecial hs] at h
  have hs := isSpecial_slot h
  rw [isSpecial] at hn hs
  simp [PrivateName.isPrivate, hn, hs]

theorem spell_eq_self (h : isInternal n = false) : PrivateName.spell owner n = n :=
  PrivateName.spell_of_not_isPrivate (isPrivate_eq_false h).1

theorem spell_slot (h : isInternal n = false) : PrivateName.spell owner (slot n) = slot n :=
  PrivateName.spell_of_not_isPrivate (isPrivate_eq_false h).2

/-! ## Names that a class binds -/

/-- All the names of functions and constants that a class may have by its kind and its roles, and that of its events. -/
def functionNames : List String :=
  Kind.record.functions ++ Kind.sum.functions ++ Role.all.flatMap Role.functions ++ [Role.eventsArgument]

theorem mem_functionNames {d : Declaration} (h : n ∈ d.functions) : n ∈ functionNames := by
  rcases Declaration.mem_functions.mp h with hk | ⟨r, -, hr⟩
  · cases hkind : d.kind with
    | record => exact List.mem_append_left _ (List.mem_append_left _ (List.mem_append_left _ (hkind ▸ hk)))
    | sum => exact List.mem_append_left _ (List.mem_append_left _ (List.mem_append_right _ (hkind ▸ hk)))
    | synonym =>
      rw [hkind] at hk
      cases hk
  · exact List.mem_append_left _ (List.mem_append_right _ (List.mem_flatMap.mpr ⟨r, r.mem_all, hr⟩))

namespace Declaration
variable {d : Declaration}

theorem mem_declared_of_field (h : n ∈ d.fields.map (·.name)) : n ∈ d.declared :=
  List.mem_cons_of_mem _ (List.mem_append_left _ h)

theorem mem_declared_of_variant {v : Variant} (h : v ∈ d.variants) : v.name ∈ d.declared :=
  List.mem_cons_of_mem _ (List.mem_append_right _ (List.mem_map_of_mem h))

theorem exists_of_mem_places (hd : ∀ n ∈ d.declared, isInternal n = false) (h : n ∈ d.places) :
    ∃ m, (m ∈ d.fields.map (·.name) ∨ m = "payload") ∧ n = slot m ∧ isInternal m = false := by
  rw [places] at h
  split at h
  · obtain ⟨f, hf, rfl⟩ := List.mem_map.mp h
    have hmem : f.name ∈ d.fields.map (·.name) := List.mem_map_of_mem hf
    exact ⟨f.name, .inl hmem, rfl, hd _ (mem_declared_of_field hmem)⟩
  · exact ⟨"payload", .inr rfl, List.mem_singleton.mp h, by decide⟩
  · cases h

end Declaration

namespace Outline
variable {d : Declaration} {c : Descriptor} {roles : List Applied} {fs : List Fragment} {p : ClassPlan}
variable (h : Outline d c roles fs p) (hown : d.HoldsOwnParts)
include h hown

theorem not_mem_functions (hn : n ∈ d.accessors) (hi : isInternal n = false) : n ∉ d.functions := by
  have hfield := (Declaration.mem_accessors.mp hn).1
  have hfields := (h.layout_eq hown).2.2.2
  have hinternal : ∀ m ∈ Kind.record.functions ++ Role.entity.functions, isInternal m = true := by decide
  intro hf
  -- what a record or an entity is given is internal, so that leaves the roles with functions of plain names
  rcases Declaration.mem_functions.mp hf with hk | ⟨r, hr, hk⟩
  · cases hkind : d.kind with
    | record =>
      rw [hkind] at hk
      rw [hinternal n (List.mem_append_left _ hk)] at hi
      cases hi
    | sum =>
      rw [Declaration.HoldsOwnParts, hkind] at hown
      rw [hown.1] at hfield
      cases hfield
    | synonym =>
      rw [hkind] at hk
      cases hk
  · have hfault := h.fault?_of_carries hr
    cases r with
    | entity =>
      rw [hinternal n (List.mem_append_right _ hk)] at hi
      cases hi
    | valueObject =>
      obtain ⟨f, hmem, rfl⟩ := List.mem_map.mp hfield
      rw [← hfields] at hmem
      rw [Role.name_of_valueObject hfault f hmem] at hk
      exact absurd hk (by decide)
    | domainEvents =>
      have hsum := Role.isSum_of_fault? hfault
      rw [← hfields, Descriptor.fields] at hfield
      rw [Descriptor.isRecord] at hsum
      cases hs : c.shape with
      | record fields =>
        rw [hs] at hsum
        cases hsum
      | sum variants =>
        rw [hs] at hfield
        cases hfield
    | domainEvent => cases hk
    | command => cases hk
    | query => cases hk

variable (hd : ∀ n ∈ d.declared, isInternal n = false)
include hd

theorem not_overlaps : ¬d.Overlaps := by
  have haccessor : ∀ n ∈ d.accessors, isInternal n = false := fun n hn =>
    hd n (Declaration.mem_declared_of_field (Declaration.mem_accessors.mp hn).1)
  have hplace : ∀ n ∈ d.places, PrivateName.spell d.name n = n ∧ isInternal n = true := by
    intro n hn
    obtain ⟨m, -, rfl, hm⟩ := Declaration.exists_of_mem_places hd hn
    exact ⟨spell_slot hm, isInternal_slot m⟩
  intro ho
  cases ho with
  | places hm hn hne he => exact hne (by rwa [(hplace _ hm).1, (hplace _ hn).1] at he)
  | accessors hm hn hne he => exact hne (by rwa [spell_eq_self (haccessor _ hm), spell_eq_self (haccessor _ hn)] at he)
  | @stored m n hm hn he =>
    rw [(hplace _ hm).1, spell_eq_self (haccessor _ hn)] at he
    have hm' := (hplace _ hm).2
    rw [he, haccessor _ hn] at hm'
    cases hm'
  | @function n hn hf =>
    rcases hn with hn | hn
    · obtain ⟨m, -, rfl, hm⟩ := Declaration.exists_of_mem_places hd hn
      have hspecial : ∀ k ∈ functionNames, isInternal k = true → isSpecial k = true := by decide
      have hs := hspecial _ (mem_functionNames hf) (isInternal_slot m)
      rw [isSpecial_slot hm] at hs
      cases hs
    · exact h.not_mem_functions hown hn (haccessor n hn) hf
  | @variant v hv hn =>
    exact not_mem_of_eq_false (hd _ (Declaration.mem_declared_of_variant hv)) (by decide) hn

theorem nodup_bound (hw : Naming.WellNamed d) : p.bound.Nodup := by
  have hno := h.not_overlaps hown hd
  exact (h.perm_bindings hown hw hno).nodup_iff.mpr ((nodup_bindings_iff h hown hw).mpr hno)

/-- What a class binds are declared names, the places of fields, and functions. -/
theorem mem_bound_cases (hn : n ∈ p.bound) :
    n ∈ d.declared ∨ (∃ m, isInternal m = false ∧ n = slot m) ∨ n ∈ functionNames := by
  rw [h.mem_bound hown, Declaration.bindings] at hn
  simp only [List.mem_append] at hn
  rcases hn with (((hn | hn) | hn) | hn) | hn
  · obtain ⟨k, hk, rfl⟩ := List.mem_map.mp hn
    obtain ⟨m, -, rfl, hm⟩ := Declaration.exists_of_mem_places hd hk
    exact .inr (.inl ⟨m, hm, spell_slot hm⟩)
  · obtain ⟨k, hk, rfl⟩ := List.mem_map.mp hn
    have hmem := Declaration.mem_declared_of_field (Declaration.mem_accessors.mp hk).1
    rw [spell_eq_self (hd k hmem)]
    exact .inl hmem
  · exact .inr (.inr (mem_functionNames hn))
  · obtain ⟨v, hv, rfl⟩ := List.mem_map.mp hn
    exact .inl (Declaration.mem_declared_of_variant hv)
  · split at hn
    · exact .inr (.inr (List.mem_append_right _ hn))
    · cases hn

end Outline

/-! ## The body of a class -/

namespace Live.Loading

theorem map_fst_memberBindings (owner : String) (m : Member) :
    (memberBindings owner m).map (·.1) = m.name :: m.copies := by
  cases m <;> rfl

theorem map_fst_flatMap_memberBindings (owner : String) (ms : List Member) :
    (ms.flatMap (memberBindings owner)).map (·.1) = ms.flatMap fun m => m.name :: m.copies := by
  rw [List.map_flatMap]
  exact congrArg (List.flatMap · ms) (funext (map_fst_memberBindings owner))

/-- The names that a body binds besides those that a class has to keep apart. -/
def notedNames (p : ClassPlan) : List String :=
  (docBindings p.docs).map (·.1) ++ match p.layout with
    | .record _ _ => []
    | .sum _ _ => [annotationsName]

theorem notedNames_subset (p : ClassPlan) : notedNames p ⊆ ["__doc__", annotationsName] := by
  intro n hn
  rcases List.mem_append.mp hn with hn | hn
  · rw [docBindings, List.map_map] at hn
    obtain ⟨x, -, rfl⟩ := List.mem_map.mp hn
    exact List.mem_cons_self
  · split at hn
    · cases hn
    · exact List.mem_cons_of_mem _ hn

theorem nodup_notedNames (p : ClassPlan) : (notedNames p).Nodup := by
  rw [notedNames, docBindings]
  cases classDoc p.docs <;> cases p.layout <;> simp [annotationsName]

theorem perm_bodyBindings (p : ClassPlan) (v : Value) : ((bodyBindings p v).map (·.1)).Perm
    (notedNames p ++ (p.layout.kind.functions ++ p.layout.assigned ++ p.supplied.flatMap fun m => m.name :: m.copies)) := by
  rw [bodyBindings, List.map_append, List.map_append, map_fst_flatMap_memberBindings, notedNames]
  cases hl : p.layout with
  | record fields assignable =>
    have hassigned : (assignable.map ClassPlan.fieldProperty).flatMap (fun m => m.name :: m.copies) =
        assignable.map (·.name) := by
      rw [List.flatMap_map, List.map_eq_flatMap]
      rfl
    simp only [layoutBindings, List.map_append, map_fst_flatMap_memberBindings, hassigned, List.append_nil,
      Layout.kind, Layout.assigned, List.append_assoc]
    exact .refl _
  | sum variants payload =>
    simp only [layoutBindings, Layout.kind, Layout.assigned, List.append_nil, List.append_assoc]
    exact .refl _

theorem tools_subset {p : ClassPlan} (hn : n ∈ bodyTools p) : n ∈ p.references ∧ n ∈ ["property", "classmethod"] := by
  have hmember : ∀ m : Member, ∀ n ∈ memberTools m, n ∈ m.references ∧ n ∈ ["property", "classmethod"] := by
    intro m n hn
    cases m with
    | accessor name annotation reading docs => cases reading <;> simp_all [memberTools, Member.references]
    | _ => simp_all [memberTools, Member.references]
  rw [ClassPlan.references]
  rcases List.mem_append.mp hn with hn | hn
  · cases hl : p.layout with
    | record fields assignable =>
      rw [hl, layoutTools, List.flatMap_map] at hn
      obtain ⟨f, hf, hn⟩ := List.mem_flatMap.mp hn
      obtain ⟨href, htool⟩ := hmember _ n hn
      exact ⟨List.mem_append_left _ (List.mem_append_right _ (List.mem_flatMap.mpr ⟨f, hf, href⟩)), htool⟩
    | sum variants payload =>
      rw [hl] at hn
      obtain rfl := List.mem_singleton.mp hn
      refine ⟨List.mem_append_left _ (List.mem_append_right _ ?_), by simp⟩
      simp [Layout.references]
  · obtain ⟨m, hm, hn⟩ := List.mem_flatMap.mp hn
    obtain ⟨href, htool⟩ := hmember m n hn
    exact ⟨List.mem_append_right _ (List.mem_flatMap.mpr ⟨m, hm, href⟩), htool⟩

end Live.Loading

namespace Outline
variable {d : Declaration} {c : Descriptor} {roles : List Applied} {fs : List Fragment} {p : ClassPlan}
variable (h : Outline d c roles fs p) (hown : d.HoldsOwnParts) (hd : ∀ n ∈ d.declared, isInternal n = false)
include h hown hd

open Live Live.Loading

theorem spell_member {m : Member} (hm : m ∈ layoutMembers p.layout ++ p.supplied) : PrivateName.spell owner m.name = m.name := by
  have hmem : m.name ∈ p.layout.assigned ∨ m.name ∈ p.supplied.map Member.name := by
    rcases List.mem_append.mp hm with hm | hm
    · refine .inl ?_
      cases hl : p.layout with
      | record fields assignable =>
        rw [hl] at hm
        obtain ⟨f, hf, rfl⟩ := List.mem_map.mp hm
        exact List.mem_map_of_mem hf
      | sum variants payload =>
        rw [hl] at hm
        cases hm
    · exact .inr (List.mem_map_of_mem hm)
  rcases (h.mem_assigned_or_supplied hown).mp hmem with hn | ⟨r, hr, hn, -⟩
  · exact spell_eq_self (hd _ (Declaration.mem_declared_of_field (Declaration.mem_accessors.mp hn).1))
  · exact PrivateName.spell_of_isPlain (Role.isPlain_of_mem _ hn)

theorem bound_eq : p.bound = p.layout.places
    ++ (p.layout.kind.functions ++ p.layout.assigned ++ p.supplied.flatMap fun m => m.name :: m.copies)
    ++ p.variants.map (·.name) ++ p.events.map fun _ => Role.eventsArgument := by
  have hname : p.name = d.name := by rw [h.plan]
  have hplaces : p.layout.places.map (PrivateName.spell p.name) = p.layout.places := by
    refine (List.map_congr_left fun n hn => ?_).trans (List.map_id _)
    rw [(h.layout_eq hown).2.1] at hn
    obtain ⟨m, -, rfl, hm⟩ := Declaration.exists_of_mem_places hd hn
    exact spell_slot hm
  have hassigned : p.layout.assigned.map (PrivateName.spell p.name) = p.layout.assigned := by
    refine (List.map_congr_left fun n hn => ?_).trans (List.map_id _)
    obtain ⟨⟨f, hf, rfl, -⟩, -⟩ := (h.mem_assigned hown).mp hn
    exact spell_eq_self (hd _ (Declaration.mem_declared_of_field (List.mem_map_of_mem hf)))
  have hsupplied : (p.supplied.flatMap fun m => PrivateName.spell p.name m.name :: m.copies) =
      p.supplied.flatMap fun m => m.name :: m.copies := by
    simp only [List.flatMap_def]
    refine congrArg List.flatten (List.map_congr_left fun m hm => ?_)
    rw [h.spell_member hown hd (List.mem_append_right _ hm)]
  rw [ClassPlan.bound, hplaces, List.flatMap_append, Layout.names_layoutItems, hassigned, List.flatMap_assoc]
  simp only [Member.names_ofMember, hsupplied]

/-- A class binds no name with two underscores in front but those of its functions. -/
theorem not_mem_bound (hs : isSpecial n = true) (hf : n ∉ functionNames) : n ∉ p.bound := by
  intro hn
  rcases h.mem_bound_cases hown hd hn with hn | ⟨m, hm, rfl⟩ | hn
  · have hi := hd n hn
    rw [isInternal_of_isSpecial hs] at hi
    cases hi
  · rw [isSpecial_slot hm] at hs
    cases hs
  · exact hf hn

theorem nodup_bodyBindings (hw : Naming.WellNamed d) (v : Value) : ((bodyBindings p v).map (·.1)).Nodup := by
  have hbound := h.nodup_bound hown hd hw
  have hnot : ∀ n ∈ notedNames p, n ∉ p.bound := by
    intro n hn
    have hall : ∀ n ∈ ["__doc__", annotationsName], isSpecial n = true ∧ n ∉ functionNames := by decide
    obtain ⟨hs, hf⟩ := hall n (notedNames_subset p hn)
    exact h.not_mem_bound hown hd hs hf
  rw [h.bound_eq hown hd] at hbound hnot
  refine (perm_bodyBindings p v).nodup_iff.mpr (List.Nodup.append (nodup_notedNames p) ?_ fun n hn hmem => hnot n hn ?_)
  · exact (List.nodup_append.mp (List.nodup_append.mp (List.nodup_append.mp hbound).1).1).2.1
  · exact List.mem_append_left _ (List.mem_append_left _ (List.mem_append_right _ hmem))

theorem mem_bodyBindings (hn : n ∈ (bodyBindings p v).map (·.1)) : n ∈ p.bound ∨ n ∈ ["__doc__", annotationsName] := by
  rcases List.mem_append.mp ((perm_bodyBindings p v).mem_iff.mp hn) with hn | hn
  · exact .inr (notedNames_subset p hn)
  · rw [h.bound_eq hown hd]
    exact .inl (List.mem_append_left _ (List.mem_append_left _ (List.mem_append_right _ hn)))

theorem tools_free (hfree : ∀ n ∈ d.declared, n ∉ p.references) (hn : n ∈ bodyTools p) :
    n ∉ (bodyBindings p v).map (·.1) := by
  obtain ⟨href, htool⟩ := tools_subset hn
  have hall : ∀ n ∈ ["property", "classmethod"], isInternal n = false ∧ n ∉ functionNames ∧ n ∉ ["__doc__", annotationsName] := by
    decide
  obtain ⟨hi, hf, hnoted⟩ := hall n htool
  intro hmem
  rcases h.mem_bodyBindings hown hd hmem with hmem | hmem
  · rcases h.mem_bound_cases hown hd hmem with hmem | ⟨m, hm, rfl⟩ | hmem
    · exact hfree n hmem href
    · rw [isInternal_slot] at hi
      cases hi
    · exact hf hmem
  · exact hnoted hmem

end Outline

end DomainModel
