import DomainModel.Proofs.Target.Module

/-!
# Rendered modules

When what a file becomes is a module of the language: exactly if its declarations are readable. That declarations,
fields and variants are not called by reserved words is checked, but a word can get into the places of other names too:
the parts of types, the events of entities, and names that a module makes from those of the file.
-/

namespace DomainModel

open Live.Loading Target

/-- No name that a declaration gives to its module stands there as something else: the names can be bound, those of
types and events can be read, the parameters of the construction are different, and a lone underscore, which would
match everything, is no sum of events. -/
structure Declaration.IsReadable (d : Declaration) : Prop where
  name : isBindable d.name = true
  fields : ∀ f ∈ d.fields, isBindable f.name = true ∧ isBindable (slot f.name) = true ∧ isReadableType f.type = true
  distinct : (d.fields.map fun f => PrivateName.spell d.name f.name).Nodup
  variants : ∀ v ∈ d.variants, isBindable v.name = true ∧ isBindable (ClassPlan.variantClass d.name v) = true
  payloads : areReadableAlternatives (d.variants.map (·.payload)) = true
  matched : d.Carries .domainEvents → d.name ≠ "_" ∨ d.variants = []
  published : ∀ e ∈ d.published, isReadableName e = true

/-! ## Declarations that have been read -/

section
variable {d : Declaration} {c : Descriptor} {roles : List Applied} {fs : List Fragment} {p : ClassPlan}

/-- The names that a file gives are words, and no reserved words. -/
structure Declaration.IsNamed (d : Declaration) : Prop where
  name : IsFree d.name
  fields : ∀ f ∈ d.fields, IsFree f.name ∧ f.name ≠ "self"
  variants : ∀ v ∈ d.variants, IsFree v.name
  published : ∀ e ∈ d.published, Identifier.isIdentifier e = true

theorem isNamed_of_isWorded (hw : d.IsWorded) (hn : Naming.WellNamed d) : d.IsNamed := by
  refine ⟨⟨hw.name, hn.name⟩, fun f hf => ⟨⟨(hw.fields f hf).1, (hn.fields f hf).1⟩, fun he => ?_⟩,
    fun v hv => ⟨(hw.variants v hv).1, hn.variants v hv⟩, fun e => isIdentifier_of_published⟩
  exact (hn.fields f hf).2 (by rw [he]; decide)

theorem variants_eq (h : Outline d c roles fs p) (hown : d.HoldsOwnParts) : c.variants = d.variants := by
  rw [← (h.layout_eq hown).2.2.1, ClassPlan.variants]
  rcases h.layout_cases with ⟨assignable, hl, hnil⟩ | ⟨payload, hl, -⟩
  · rw [hl, hnil]
  · rw [hl]

theorem isSound_of_outline (h : Outline d c roles fs p) (hown : d.HoldsOwnParts) (hw : d.IsWorded) (hn : d.IsNamed) :
    IsSound p := by
  obtain ⟨-, -, hvariants, hfields⟩ := h.layout_eq hown
  have hname : p.name = d.name := by rw [h.plan]
  have hnames : HasNames c := by
    refine ⟨h.name_eq ▸ hn.name, fun f hf => ?_, fun v hv => ?_⟩
    · rw [hfields] at hf
      exact ⟨(hn.fields f hf).1, hasWords_of_isWorded _ (hw.fields f hf).2⟩
    · rw [variants_eq h hown] at hv
      exact ⟨hn.variants v hv, hasWords_of_isWorded _ (hw.variants v hv).2⟩
  have hpc : p.name = c.name := hname.trans h.name_eq.symm
  refine ⟨hname ▸ hn.name, fun v hv => ?_, embodies_body h hnames hpc, allFit_body h hnames hpc fun f hf => ?_,
    fun e he => ?_, fun e he => ?_⟩
  · rw [hvariants] at hv
    exact ⟨hn.variants v hv, hasWords_of_isWorded _ (hw.variants v hv).2⟩
  · rw [hfields] at hf
    exact (hn.fields f hf).2
  · rw [h.errors_eq] at he
    split at he
    · rw [List.mem_singleton.mp he, hname]
    · cases he
  · rw [h.events_eq] at he
    exact hn.published e he

theorem all_isReadableMember_iff (h : Outline d c roles fs p) (hown : d.HoldsOwnParts) :
    p.supplied.all isReadableMember = true ↔ (d.Carries .domainEvents → d.name ≠ "_" ∨ d.variants = []) := by
  rw [List.all_eq_true]
  constructor
  · intro hall hr
    obtain ⟨-, hsupplied⟩ := h.supplied_of_events hown hr
    have hmember := hall _ (hsupplied ("occurred", "int") (by decide))
    simpa [isReadableMember] using hmember
  · intro hall m hm
    have hderives := h.derives m (List.mem_append_right _ hm)
    cases hderives with
    | accessor hf =>
      rw [Fragment.contractAccessor]
      split <;> rfl
    | dispatch hr hx =>
      have hmatched := hall hr
      simpa [isReadableMember, h.name_eq, variants_eq h hown] using hmatched
    | _ => rfl

theorem isReadableLayout_iff (h : Outline d c roles fs p) (hown : d.HoldsOwnParts) :
    isReadableLayout d.name p.layout = true ↔
      (∀ f ∈ d.fields, isBindable f.name = true ∧ isBindable (slot f.name) = true ∧ isReadableType f.type = true) ∧
        (d.fields.map fun f => PrivateName.spell d.name f.name).Nodup ∧
        (∀ v ∈ d.variants, isBindable v.name = true ∧ isBindable (ClassPlan.variantClass d.name v) = true) ∧
        areReadableAlternatives (d.variants.map (·.payload)) = true := by
  rw [← (h.layout_eq hown).2.2.2, ← variants_eq h hown]
  -- a record has no variants and a sum no fields, so half of the conditions is empty either way
  rcases h.layout_cases with ⟨assignable, hl, hnil⟩ | ⟨payload, hl, hnil⟩
  · simp only [hl, hnil, isReadableLayout, areReadableTypes_eq, List.all_map, Bool.and_eq_true, List.all_eq_true,
      decide_eq_true_eq, Function.comp_apply, forall_and]
    have hnone : areReadableAlternatives [] = true := by rfl
    simp only [List.map_nil, hnone, List.not_mem_nil, false_imp_iff, implies_true, and_true]
    tauto
  · simp only [hl, hnil, isReadableLayout, Bool.and_eq_true, List.all_eq_true]
    simp
    tauto

theorem isReadablePlan_iff_of_outline (h : Outline d c roles fs p) (hown : d.HoldsOwnParts) :
    isReadablePlan p = true ↔ d.IsReadable := by
  have hname : p.name = d.name := by rw [h.plan]
  rw [isReadablePlan, hname, Bool.and_eq_true, Bool.and_eq_true, Bool.and_eq_true, isReadableLayout_iff h hown,
    all_isReadableMember_iff h hown, List.all_eq_true, h.events_eq]
  constructor
  · rintro ⟨⟨⟨hn, hf, hd, hv, hp⟩, hm⟩, he⟩
    exact ⟨hn, hf, hd, hv, hp, hm, he⟩
  · rintro ⟨hn, hf, hd, hv, hp, hm, he⟩
    exact ⟨⟨⟨hn, hf, hd, hv, hp⟩, hm⟩, he⟩

/-- A part of a module that a declaration becomes is readable if the declaration is. -/
inductive IsPart (d : Declaration) : Module.Part → Prop
  | cls {p : ClassPlan} (hp : IsSound p) (hr : isReadablePlan p = true ↔ d.IsReadable) : IsPart d (.cls p)
  | synonym {s : Synonym} (hs : IsSoundSynonym s) (hr : isBindable s.name = true ↔ d.IsReadable) : IsPart d (.synonym s)

theorem isPart_of_plan (hw : d.IsWorded) (hown : d.HoldsOwnParts) (hn : d.IsNamed) (h : ClassPlan.ofDeclaration d = .ok p) :
    IsPart d (.cls p) := by
  obtain ⟨c, roles, fs, ho⟩ := exists_outline h
  exact .cls (isSound_of_outline ho hown hw hn) (isReadablePlan_iff_of_outline ho hown)

theorem isReadable_synonym (hk : d.kind = .synonym) (hown : d.HoldsOwnParts) (hd : d.directives = []) :
    isBindable d.name = true ↔ d.IsReadable := by
  rw [Declaration.HoldsOwnParts, hk] at hown
  obtain ⟨hfields, hvariants, -⟩ := hown
  refine ⟨fun hn => ⟨hn, ?_, ?_, ?_, ?_, fun _ => .inr hvariants, ?_⟩, fun h => h.name⟩
  · simp [hfields]
  · simp [hfields]
  · simp [hvariants]
  · rw [hvariants]
    rfl
  · simp [Declaration.published, hd]

theorem isPart_of_part {x : Module.Part} (hw : d.IsWorded) (hown : d.HoldsOwnParts) (hn : d.IsNamed)
    (h : Module.part d = .ok x) : IsPart d x := by
  cases hk : d.kind with
  | record =>
    rw [Module.part_eq_of_record hk] at h
    obtain ⟨p, hp, rfl⟩ := map_eq_ok_iff.mp h
    exact isPart_of_plan hw hown hn hp
  | sum =>
    rw [Module.part_eq_of_sum hk] at h
    obtain ⟨p, hp, rfl⟩ := map_eq_ok_iff.mp h
    exact isPart_of_plan hw hown hn hp
  | synonym =>
    rw [Module.part, hk, bind_eq_ok_iff] at h
    obtain ⟨roles, hc, h⟩ := h
    cases h
    have hreadable := isReadable_synonym hk hown (Module.directives_eq_nil_of_synonym hk hc)
    rw [Declaration.HoldsOwnParts, hk] at hown
    obtain ⟨t, ht⟩ := Option.isSome_iff_exists.mp hown.2.2
    refine .synonym ⟨hn.name, t, hasWords_of_isWorded t (hw.target t ht), ?_⟩ hreadable
    rw [ht]
    rfl

end

/-! ## Files -/

section
variable {ds : List Declaration} {parts : List Module.Part} {contracts : String}

theorem isSoundModule_of_parts (h : List.Forall₂ IsPart ds parts) :
    IsSoundModule ⟨defaultContracts, parts.filterMap Module.Part.plan?, parts.filterMap Module.Part.synonym?⟩ := by
  refine ⟨rfl, fun p hp => ?_, fun s hs => ?_⟩
  · obtain ⟨x, hx, hplan⟩ := List.mem_filterMap.mp hp
    obtain ⟨d, hd⟩ := exists_of_forall₂ h x hx
    cases hd with
    | cls hsound hr =>
      cases hplan
      exact hsound
    | synonym hs hr => cases hplan
  · obtain ⟨x, hx, hsynonym⟩ := List.mem_filterMap.mp hs
    obtain ⟨d, hd⟩ := exists_of_forall₂ h x hx
    cases hd with
    | cls hsound hr => cases hsynonym
    | synonym hs hr =>
      cases hsynonym
      exact hs

theorem isReadableModule_iff_of_parts (h : List.Forall₂ IsPart ds parts) :
    isReadableModule ⟨contracts, parts.filterMap Module.Part.plan?, parts.filterMap Module.Part.synonym?⟩ = true ↔
      ∀ d ∈ ds, d.IsReadable := by
  rw [isReadableModule, Bool.and_eq_true]
  induction h with
  | nil => simp
  | @cons d x ds parts hx _ ih =>
    rw [List.forall_mem_cons, ← ih]
    cases hx with
    | cls hp hr => simp [Module.Part.plan?, Module.Part.synonym?, ← hr, and_assoc]
    | synonym hs hr =>
      simp only [Module.Part.plan?, Module.Part.synonym?, List.filterMap_cons, List.all_cons, Bool.and_eq_true, ← hr]
      tauto

end

theorem isNamed_of_parse {text : String} {file : Option String} {ds : List Declaration} (h : parse text file = .ok ds) :
    ∀ d ∈ ds, d.IsNamed :=
  fun d hd => isNamed_of_isWorded (isWorded_of_parse h d hd) (wellNamed_of_parse h d hd)

theorem exists_module {ds : List Declaration} {contracts source : String} (h : render ds contracts = .ok source) :
    ∃ m, Module.ofDeclarations ds contracts = .ok m ∧ m.text = source := map_eq_ok_iff.mp h

theorem exists_parts {text contracts : String} {file : Option String} {ds : List Declaration} {m : Module}
    (h : parse text file = .ok ds) (hm : Module.ofDeclarations ds contracts = .ok m) :
    ∃ parts, List.Forall₂ IsPart ds parts ∧
      m = ⟨contracts, parts.filterMap Module.Part.plan?, parts.filterMap Module.Part.synonym?⟩ := by
  rw [Module.ofDeclarations, bind_eq_ok_iff] at hm
  obtain ⟨parts, hparts, hmodule⟩ := hm
  have hall : ∀ d ∈ ds, d.IsWorded ∧ d.HoldsOwnParts ∧ d.IsNamed := fun d hd =>
    ⟨isWorded_of_parse h d hd, holdsOwnParts_of_parse h d hd, isNamed_of_parse h d hd⟩
  refine ⟨parts, ?_, (Except.ok.inj hmodule).symm⟩
  exact ((List.forall₂_and_left _ _).mpr ⟨hall, forall₂_of_mapM_eq_ok hparts⟩).imp
    fun d x hx => isPart_of_part hx.1.1 hx.1.2.1 hx.1.2.2 hx.2

/-- The names that a file gives to declarations, fields and variants can be used as names in the module that it becomes,
and what events are assigned is an identifier; the module is one of the language exactly if no null character has got
into it with the documentation, and the declarations are readable. -/
theorem render_isModule_iff {text source : String} {file : Option String} {ds : List Declaration}
    (h : parse text file = .ok ds) (hr : render ds defaultContracts = .ok source) :
    (∀ d ∈ ds, d.IsNamed) ∧ (IsModule source ↔ '\x00' ∉ source.toList ∧ ∀ d ∈ ds, d.IsReadable) := by
  obtain ⟨m, hm, hsource⟩ := exists_module hr
  obtain ⟨parts, hparts, rfl⟩ := exists_parts h hm
  have hiff := (isSoundModule_of_parts hparts).isModule_iff
  rw [hsource, isReadableModule_iff_of_parts hparts] at hiff
  exact ⟨isNamed_of_parse h, hiff⟩

/-- A file with names that come close to what cannot be read: words that are reserved in few places, and a constant. -/
theorem render_isModule_iff_names :
    ∃ ds source,
      parse "record match \x7b x: None.y pub type: list[string] \x7d sum S \x7b case(match) \x7d" none = .ok ds ∧
      render ds defaultContracts = .ok source ∧ (∀ d ∈ ds, d.IsNamed) ∧ IsModule source := by
  let ds : List Declaration :=
    [{ kind := .record, name := "match"
       fields := [⟨"x", ⟨"None.y", []⟩, .hidden, [], some ⟨1, 16, none⟩⟩,
         ⟨"type", ⟨"list", [⟨"string", []⟩]⟩, .exposed, [], some ⟨1, 30, none⟩⟩]
       location := some ⟨1, 8, none⟩ },
     { kind := .sum, name := "S", variants := [⟨"case", ⟨"match", []⟩, [], some ⟨1, 59, none⟩⟩]
       location := some ⟨1, 55, none⟩ }]
  have hparse : parse "record match \x7b x: None.y pub type: list[string] \x7d sum S \x7b case(match) \x7d" none =
      .ok ds := by cbv
  have hreadable : ∀ d ∈ ds, d.IsReadable := by
    simp only [ds, List.forall_mem_cons, List.not_mem_nil, false_imp_iff, implies_true, and_true]
    exact ⟨⟨by decide, by decide, by decide, by decide, by decide, by decide, by decide⟩,
      ⟨by decide, by decide, by decide, by decide, by decide, by decide, by decide⟩⟩
  have hnull : ((Module.ofDeclarations ds defaultContracts).toOption.all fun m =>
      m.parts.all fun s => !s.toList.contains '\x00') = true := by decide +kernel
  cases hr : render ds defaultContracts with
  | error e => cases hr
  | ok source =>
    obtain ⟨hnamed, hiff⟩ := render_isModule_iff hparse hr
    refine ⟨ds, source, hparse, hr, hnamed, hiff.mpr ⟨?_, hreadable⟩⟩
    obtain ⟨m, hm, rfl⟩ := exists_module hr
    rw [hm] at hnull
    refine Module.null_not_mem_text fun s hs => ?_
    simpa using List.all_eq_true.mp hnull s hs

/-- A reserved word as a type is not refused, and ends up as an expression of the module. -/
theorem render_isModule_reserved :
    ∃ ds source, parse "record A \x7b x: class \x7d" none = .ok ds ∧ render ds defaultContracts = .ok source ∧
      ¬IsModule source := by
  let ds : List Declaration :=
    [{ kind := .record, name := "A", fields := [⟨"x", ⟨"class", []⟩, .hidden, [], some ⟨1, 12, none⟩⟩]
       location := some ⟨1, 8, none⟩ }]
  have hparse : parse "record A \x7b x: class \x7d" none = .ok ds := by cbv
  have hreserved : isReadableType ⟨"class", []⟩ = false := by decide
  cases hr : render ds defaultContracts with
  | error e => cases hr
  | ok source =>
    obtain ⟨m, hm, hsource⟩ := exists_module hr
    obtain ⟨parts, hparts, rfl⟩ := exists_parts hparse hm
    have hiff := (isSoundModule_of_parts hparts).isModule_iff
    rw [hsource, isReadableModule_iff_of_parts hparts] at hiff
    refine ⟨ds, source, hparse, hr, fun hmodule => ?_⟩
    have hreadable := (hiff.mp hmodule).2 _ (List.mem_singleton.mpr rfl)
    have htype := (hreadable.fields _ (List.mem_singleton.mpr rfl)).2.2
    rw [hreserved] at htype
    cases htype

end DomainModel
