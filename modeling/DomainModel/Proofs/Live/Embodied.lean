import DomainModel.Proofs.Live.Defining
import DomainModel.Proofs.Live.Following
import DomainModel.Proofs.Live.Unobtrusive

/-!
# Classes that embody their plans

A class embodies its plan if it binds what the plan says, and nothing else that matters, in front of the contracts
that the plan names. The class of a variant adds its own constructor, and nothing else that matters, to that of its
sum. Both stay so in all worlds that come later.
-/

namespace DomainModel.Live

/-! ## Contracts in orderly worlds -/

namespace World.Orderly
variable {w : World} (h : w.Orderly)
include h

theorem linearize_contract (b : Contract) : w.linearize (.contract b) = b.linearization := by
  rw [(h.ground_contract b).linearize]
  cases b <;> rfl

theorem isFixed_contract (b : Contract) : w.isFixed (.contract b) = false := by
  rw [(h.ground_contract b).isFixed]
  cases b <;> decide

theorem info_contract (b : Contract) : (w.info (.contract b)).frame = (Contract.info b).frame := by
  rw [(h.ground_contract b).frame]
  cases b <;> rfl

theorem member?_contract (b : Contract) {n : String} (hn : n ∉ noteNames) :
    w.member? (.contract b) n = (Contract.info b).member? n := by
  rw [(h.ground_contract b).member? n hn]
  cases b <;> rfl

end World.Orderly

theorem ClassInfo.frame_eq {i i' : ClassInfo} (h : i'.frame = i.frame) : i'.name = i.name ∧ i'.qualname = i.qualname ∧
    i'.bases = i.bases ∧ i'.linearization = i.linearization ∧ i'.isAbstractKind = i.isAbstractKind ∧
      i'.isIncomplete = i.isIncomplete ∧ i'.holdsAttributes = i.holdsAttributes := by
  simp only [ClassInfo.frame, ClassInfo.mk.injEq] at h
  obtain ⟨hname, hqualname, hbases, -, hline, habstract, hincomplete, -, -, -, -, -, hholds, -⟩ := h
  exact ⟨hname, hqualname, hbases, hline, habstract, hincomplete, hholds⟩

namespace Loading

/-! ## Embodied plans -/

/-- The names of which a plan does not say what its class binds to them. -/
def unsettledNames (p : ClassPlan) : List String :=
  noteNames ++ ["__module__", "__qualname__", "__dict__", "__weakref__", "__doc__"]
    ++ (if p.bases.isEmpty then [] else Making.abstractNames) ++ p.events.map fun _ => Role.eventsArgument

theorem unsettledNames_subset (p : ClassPlan) : unsettledNames p ⊆ noteNames
    ++ ["__module__", "__qualname__", "__dict__", "__weakref__", "__doc__"] ++ Making.abstractNames ++ [Role.eventsArgument] := by
  intro n hn
  simp only [unsettledNames, List.mem_append, List.mem_map] at hn ⊢
  rcases hn with (hn | hn) | ⟨e, -, rfl⟩
  · exact .inl (.inl hn)
  · split at hn
    · cases hn
    · exact .inl (.inr hn)
  · exact .inr List.mem_cons_self

/-- What a plan says that its class binds; `vs` are the classes of those variants that have been made. -/
def table (p : ClassPlan) (c : ClassRef) (vs : List (Variant × ClassRef)) : List (String × Value) :=
  bodyBindings p .nothing ++ p.layout.places.map (fun n => (n, .slot c n)) ++ vs.map fun x => (x.1.name, .cls x.2)

structure Embodies (w : World) (p : ClassPlan) (c : ClassRef) (vs : List (Variant × ClassRef)) : Prop where
  global : w.globals.lookup p.name = some (.cls c)
  made : ∃ index, c = .made index
  there : w.isFixed c = false
  name : (w.info c).name = p.name
  qualname : (w.info c).qualname = p.name
  behind : ∃ line, w.linearize c = c :: line ∧ (∀ b ∈ p.bases, b.linearization ⊆ line) ∧
    ∀ k ∈ line, k = .object ∨ ∃ b ∈ p.bases, k ∈ b.linearization
  isAbstractKind : (w.info c).isAbstractKind = !p.bases.isEmpty
  isIncomplete : .valueObject ∉ p.bases → (w.info c).isIncomplete = false
  /-- Nothing is said to be left to a class that builds on this one. -/
  said : .valueObject ∉ p.bases → ∀ x, w.member? c "__abstractmethods__" = some x → x = .nameSet []
  holdsAttributes : (w.info c).holdsAttributes = false
  bound : ∀ n v, n ∉ unsettledNames p → (n, v) ∈ table p c vs → w.member? c n = some v
  free : ∀ n, n ∉ unsettledNames p → n ≠ "__hash__" → n ∉ (table p c vs).map (·.1) → w.member? c n = none

/-- The names of which it does not matter what the class of a variant binds to them. -/
def variantNames : List String :=
  noteNames ++ ["__module__", "__qualname__", "__dict__", "__weakref__", "__doc__", "__slots__", "__init__"]
    ++ Making.abstractNames

structure EmbodiesVariant (w : World) (p : ClassPlan) (c : ClassRef) (v : Variant) (cv : ClassRef) : Prop where
  made : ∃ index, cv = .made index
  there : w.isFixed cv = false
  name : (w.info cv).name = v.name
  qualname : (w.info cv).qualname = p.name ++ "." ++ v.name
  behind : w.linearize cv = cv :: w.linearize c
  isAbstractKind : (w.info cv).isAbstractKind = !p.bases.isEmpty
  isIncomplete : .valueObject ∉ p.bases → (w.info cv).isIncomplete = false
  holdsAttributes : (w.info cv).holdsAttributes = false
  init : ∃ f, f.body = .variantInit cv ∧ f.owner = ClassPlan.variantClass p.name v ∧
    w.member? cv "__init__" = some (.function f)
  free : ∀ n, n ∉ variantNames → w.member? cv n = none

section
variable {w w' : World} {p : ClassPlan} {c : ClassRef} {vs : List (Variant × ClassRef)} {v : Variant} {cv : ClassRef}

theorem Embodies.congr (h : Embodies w p c vs) (hframe : (w'.info c).frame = (w.info c).frame)
    (hfixed : w'.isFixed c = w.isFixed c) (hglobal : w'.globals.lookup p.name = w.globals.lookup p.name)
    (hsaid : w'.member? c "__abstractmethods__" = w.member? c "__abstractmethods__")
    (hmember : ∀ n ∉ unsettledNames p, w'.member? c n = w.member? c n) : Embodies w' p c vs := by
  obtain ⟨hname, hqualname, -, hline, habstract, hincomplete, hholds⟩ := ClassInfo.frame_eq hframe
  have hline : w'.linearize c = w.linearize c := hline
  exact ⟨hglobal.trans h.global, h.made, hfixed.trans h.there, hname.trans h.name, hqualname.trans h.qualname,
    hline ▸ h.behind, habstract.trans h.isAbstractKind, fun hp => hincomplete.trans (h.isIncomplete hp), fun hp => hsaid ▸ h.said hp,
    hholds.trans h.holdsAttributes, fun n v hn hv => (hmember n hn).trans (h.bound n v hn hv),
    fun n hn hh hv => (hmember n hn).trans (h.free n hn hh hv)⟩

theorem Embodies.of_agrees (h : Embodies w p c vs) (ha : w.Agrees w' c)
    (hglobal : w'.globals.lookup p.name = w.globals.lookup p.name) : Embodies w' p c vs := by
  refine h.congr ha.frame ha.isFixed hglobal (ha.member? _ (by decide)) fun n hn => ha.member? n fun hmem => hn ?_
  simp only [unsettledNames, List.append_assoc]
  exact List.mem_append_left _ hmem

theorem Embodies.slots (h : Embodies w p c vs) : w.member? c "__slots__" = some (.names p.layout.places) := by
  refine h.bound _ _ (fun hmem => absurd (unsettledNames_subset p hmem) (by decide)) ?_
  simp only [table, bodyBindings, List.mem_append]
  refine .inl (.inl (.inl (.inr ?_)))
  cases p.layout with
  | record fields assignable => simp [layoutBindings, Layout.places]
  | sum variants payload => simp [layoutBindings, Layout.places]

theorem Embodies.after (h : Embodies w p c vs) (ha : w.After w') : Embodies w' p c vs :=
  h.of_agrees (ha.agrees c h.there) (by rw [ha.globals])

theorem EmbodiesVariant.of_agrees (h : EmbodiesVariant w p c v cv) (ha : w.Agrees w' cv)
    (hc : w'.linearize c = w.linearize c) : EmbodiesVariant w' p c v cv := by
  obtain ⟨hname, hqualname, -, hline, habstract, hincomplete, hholds⟩ := ClassInfo.frame_eq ha.frame
  have hline : w'.linearize cv = w.linearize cv := hline
  obtain ⟨f, hbody, howner, hinit⟩ := h.init
  refine ⟨h.made, ha.isFixed.trans h.there, hname.trans h.name, hqualname.trans h.qualname, ?_,
    habstract.trans h.isAbstractKind, fun hp => hincomplete.trans (h.isIncomplete hp), hholds.trans h.holdsAttributes,
    ⟨f, hbody, howner, (ha.member? _ (by decide)).trans hinit⟩, fun n hn => ?_⟩
  · rw [hline, h.behind, hc]
  · refine (ha.member? n fun hmem => hn ?_).trans (h.free n hn)
    rw [variantNames, List.append_assoc]
    exact List.mem_append_left _ hmem

theorem EmbodiesVariant.after (h : EmbodiesVariant w p c v cv) (hc : Embodies w p c vs) (ha : w.After w') :
    EmbodiesVariant w' p c v cv := h.of_agrees (ha.agrees cv h.there) (ha.agrees c hc.there).linearize

end

/-! ## What is left to be supplied -/

section
variable {w : World} {owner : String} {p : ClassPlan} {v : Value} {bases line : List ClassRef}
  {members : List (String × Value)} {missing : List String}

theorem isRequired_memberBindings (m : Member) : ∀ x ∈ memberBindings owner m, x.2.isRequired = false := by
  cases m with
  | accessor name annotation reading docs => cases reading <;> simp [memberBindings, Value.isRequired, function,
      readingBody, Body.isRequired]
  | _ => simp [memberBindings, Value.isRequired, function, Body.isRequired]

theorem isRequired_members (ms : List Member) : ∀ x ∈ ms.flatMap (memberBindings owner), x.2.isRequired = false := by
  intro x hx
  obtain ⟨m, -, hx⟩ := List.mem_flatMap.mp hx
  exact isRequired_memberBindings m x hx

theorem isRequired_docBindings (docs : List String) : ∀ x ∈ docBindings docs, x.2.isRequired = false := by
  intro x hx
  obtain ⟨d, -, rfl⟩ := List.mem_map.mp hx
  rfl

theorem isRequired_layoutBindings (hv : v.isRequired = false) (l : Layout) :
    ∀ x ∈ layoutBindings owner v l, x.2.isRequired = false := by
  cases l with
  | record fields assignable =>
    intro x hx
    rcases List.mem_append.mp hx with hx | hx
    · simp only [List.mem_cons, List.not_mem_nil, or_false] at hx
      rcases hx with rfl | rfl | rfl <;> rfl
    · exact isRequired_members _ x hx
  | sum variants payload =>
    intro x hx
    simp only [layoutBindings, List.mem_cons, List.not_mem_nil, or_false] at hx
    rcases hx with rfl | rfl | rfl | rfl | rfl | rfl | rfl | rfl | rfl <;> first | exact hv | rfl

theorem isRequired_startBindings : ∀ x ∈ startBindings owner, x.2.isRequired = false := by
  simp [startBindings, Value.isRequired, Value.constant]

theorem isRequired_bodyBindings (hv : v.isRequired = false) : ∀ x ∈ bodyBindings p v, x.2.isRequired = false := by
  intro x hx
  simp only [bodyBindings, List.mem_append] at hx
  rcases hx with (hx | hx) | hx
  · exact isRequired_docBindings _ x hx
  · exact isRequired_layoutBindings hv _ x hx
  · exact isRequired_members _ x hx

theorem required_eq_nil (h : Making.required w bases line members = .ok missing)
    (hown : ∀ x ∈ members, x.2.isRequired = false)
    (hbases : ∀ b ∈ bases, ∀ ns, Making.saidRequired w b = .ok ns → ∀ n ∈ ns, n ∈ members.map (·.1)) : missing = [] := by
  have hnone : members.filter (·.2.isRequired) = [] :=
    List.filter_eq_nil_iff.mpr fun x hx => by rw [hown x hx]; exact Bool.false_ne_true
  rw [Making.required, hnone] at h
  cases hsaid : bases.mapM (Making.saidRequired w) with
  | error e =>
    rw [hsaid] at h
    cases h
  | ok said =>
    rw [hsaid] at h
    have hnames : ∀ n ∈ said.flatten, n ∈ members.map (·.1) := by
      intro n hn
      obtain ⟨ns, hns, hn⟩ := List.mem_flatten.mp hn
      obtain ⟨b, hb, hsaid⟩ := exists_mem_of_forall₂ (forall₂_of_mapM_eq_ok hsaid).flip ns hns
      exact hbases b hb ns hsaid n hn
    have hfilter : (said.flatten.filter fun n =>
        (((members.lookup n).or (w.firstMember? line n)).map Value.isRequired).getD false) = [] := by
      refine List.filter_eq_nil_iff.mpr fun n hn => ?_
      obtain ⟨x, hx, rfl⟩ := List.mem_map.mp (hnames n hn)
      obtain ⟨b, hb⟩ := Option.isSome_iff_exists.mp (List.lookup_isSome_iff.mpr ⟨x, hx, beq_self_eq_true _⟩)
      rw [hb]
      change ¬b.isRequired = true
      rw [hown _ (World.mem_of_lookup hb)]
      exact Bool.false_ne_true
    have hmissing := Except.ok.inj h
    rw [← hmissing]
    simp [hfilter]

end

end Loading

end DomainModel.Live

namespace DomainModel

/-! ## Plans whose names are in nobody's way -/

/-- A plan whose declared names are none of some others and do not start with an underscore. -/
structure Clear (references : List String) (d : Declaration) (p : ClassPlan) : Prop where
  outline : ∃ c roles fs, Outline d c roles fs p
  own : d.HoldsOwnParts
  named : Naming.WellNamed d
  internal : ∀ n ∈ d.declared, isInternal n = false
  free : ∀ n ∈ d.declared, n ∉ references
  subset : p.references ⊆ references

theorem Outline.exists_role_of_base {d : Declaration} {c : Descriptor} {roles : List Applied} {fs : List Fragment}
    {p : ClassPlan} (h : Outline d c roles fs p) {b : Contract} (hb : b ∈ p.bases) :
    ∃ r publishes, d.Carries r ∧ b = r.base publishes := by
  rw [h.plan, List.mem_eraseDups] at hb
  obtain ⟨f, hf, rfl⟩ := List.mem_map.mp hb
  obtain ⟨a, hs, hr, -⟩ := h.stem_of_mem hf
  exact ⟨a.role, _, hr, hs.furnishes.base⟩

open Live Live.Loading

theorem Live.Loading.mem_bodyBindings_iff {p : ClassPlan} {v : Value} {n : String} : n ∈ (bodyBindings p v).map (·.1) ↔ n ∈ notedNames p ∨ n ∈ p.layout.kind.functions ∨
    n ∈ p.layout.assigned ∨ n ∈ p.supplied.flatMap fun m => m.name :: m.copies := by
  rw [(perm_bodyBindings p v).mem_iff, List.mem_append, List.mem_append, List.mem_append, or_assoc]

namespace Clear
variable {references : List String} {d : Declaration} {p : ClassPlan} {n : String} {v : Value} (h : Clear references d p)
include h

theorem name_eq : p.name = d.name := by
  obtain ⟨c, roles, fs, ho⟩ := h.outline
  rw [ho.plan]

theorem isInternal_name : isInternal p.name = false := h.name_eq ▸ h.internal _ List.mem_cons_self

theorem variants_eq : p.variants = d.variants := by
  obtain ⟨c, roles, fs, ho⟩ := h.outline
  exact (ho.layout_eq h.own).2.2.1

theorem isInternal_variant {x : Variant} (hx : x ∈ p.variants) : isInternal x.name = false :=
  h.internal _ (Declaration.mem_declared_of_variant (h.variants_eq ▸ hx))

theorem base_mem (b : Contract) (hb : b ∈ p.bases) : b ≠ .valueValidationError ∧ b ≠ .message := by
  obtain ⟨c, roles, fs, ho⟩ := h.outline
  obtain ⟨r, q, -, rfl⟩ := ho.exists_role_of_base hb
  cases r <;> cases q <;> decide

theorem nodup_bound : p.bound.Nodup := by
  obtain ⟨c, roles, fs, ho⟩ := h.outline
  exact ho.nodup_bound h.own h.internal h.named

/-- A class supplies what its contracts leave to it, but for the rule of a value object. -/
theorem mem_of_required {b : Contract} (hb : b ∈ p.bases) (hv : b ≠ .valueObject) (hn : n ∈ b.required) :
    n ∈ (bodyBindings p v).map (·.1) := by
  obtain ⟨c, roles, fs, ho⟩ := h.outline
  obtain ⟨r, q, hr, rfl⟩ := ho.exists_role_of_base hb
  rw [mem_bodyBindings_iff]
  have hsupplied : r.Supplies c n → n ∈ p.supplied.flatMap fun m => m.name :: m.copies := by
    intro hs
    obtain ⟨m, hm, rfl⟩ := List.mem_map.mp (ho.mem_supplied.mpr ⟨r, hr, hs⟩)
    exact List.mem_flatMap.mpr ⟨m, hm, List.mem_cons_self⟩
  cases r with
  | entity =>
    have hall : ∀ n ∈ Contract.entity.required, n ∈ ["id", "version", "__eq__", "__hash__"] := by decide
    refine .inr (.inr (.inr (hsupplied (.inl (hall n ?_)))))
    cases q <;> exact hn
  | valueObject => exact absurd rfl hv
  | domainEvent =>
    have hall : ∀ n ∈ Contract.domainEvent.required, n ∈ ["occurred", "id", "aggregate_id", "version"] := by decide
    exact .inr (.inr (.inr (hsupplied (hall n hn))))
  | domainEvents =>
    have hall : ∀ n ∈ Contract.domainEvents.required, n ∈ ["occurred", "id", "aggregate_id", "version"] ∨ n = "payload" := by
      decide
    rcases hall n hn with hn | rfl
    · exact .inr (.inr (.inr (hsupplied hn)))
    · have hkind : p.layout.kind = .sum := by
        have hsum := Role.isSum_of_fault? (ho.fault?_of_carries hr)
        rw [ho.plan]
        rw [Descriptor.isRecord] at hsum
        cases hs : c.shape with
        | record fields =>
          rw [hs] at hsum
          cases hsum
        | sum variants => rfl
      rw [hkind]
      exact .inr (.inl (by decide))
  | command => cases hn
  | query => cases hn

theorem nodup_bodyBindings (v : Value) : ((bodyBindings p v).map (·.1)).Nodup := by
  obtain ⟨c, roles, fs, ho⟩ := h.outline
  exact ho.nodup_bodyBindings h.own h.internal h.named v

theorem not_mem_bound (hs : isSpecial n = true) (hf : n ∉ functionNames) : n ∉ p.bound := by
  obtain ⟨c, roles, fs, ho⟩ := h.outline
  exact ho.not_mem_bound h.own h.internal hs hf

theorem bound_eq : p.bound = p.layout.places
    ++ (p.layout.kind.functions ++ p.layout.assigned ++ p.supplied.flatMap fun m => m.name :: m.copies)
    ++ p.variants.map (·.name) ++ p.events.map fun _ => Role.eventsArgument := by
  obtain ⟨c, roles, fs, ho⟩ := h.outline
  exact ho.bound_eq h.own h.internal

theorem exists_of_mem_places (hn : n ∈ p.layout.places) :
    ∃ m, (m ∈ d.fields.map (·.name) ∨ m = "payload") ∧ n = slot m ∧ isInternal m = false := by
  obtain ⟨c, roles, fs, ho⟩ := h.outline
  exact Declaration.exists_of_mem_places h.internal ((ho.layout_eq h.own).2.1 ▸ hn)

theorem isSpecial_place (hn : n ∈ p.layout.places) : isSpecial n = false := by
  obtain ⟨m, -, rfl, hm⟩ := h.exists_of_mem_places hn
  exact isSpecial_slot hm

theorem nodup_table (c : ClassRef) {vs : List (Variant × ClassRef)} (hvs : vs.map (·.1) <+: p.variants) :
    ((table p c vs).map (·.1)).Nodup := by
  have hbound := h.nodup_bound
  have hnot : ∀ n ∈ notedNames p, n ∉ p.bound := by
    intro n hn
    have hall : ∀ n ∈ ["__doc__", annotationsName], isSpecial n = true ∧ n ∉ functionNames := by decide
    obtain ⟨hs, hf⟩ := hall n (notedNames_subset p hn)
    exact h.not_mem_bound hs hf
  rw [h.bound_eq] at hbound hnot
  have hkeys : (table p c vs).map (·.1) =
      (bodyBindings p .nothing).map (·.1) ++ p.layout.places ++ (vs.map (·.1)).map (·.name) := by
    simp [table, Function.comp_def]
  have hsub : (p.layout.places ++ (p.layout.kind.functions ++ p.layout.assigned
      ++ p.supplied.flatMap fun m => m.name :: m.copies) ++ (vs.map (·.1)).map (·.name)).Sublist
      (p.layout.places ++ (p.layout.kind.functions ++ p.layout.assigned ++ p.supplied.flatMap fun m => m.name :: m.copies)
        ++ p.variants.map (·.name) ++ p.events.map fun _ => Role.eventsArgument) :=
    ((hvs.sublist.map _).append_left _).trans (List.sublist_append_left _ _)
  have hperm : ((table p c vs).map (·.1)).Perm (notedNames p ++ (p.layout.places ++ (p.layout.kind.functions
      ++ p.layout.assigned ++ p.supplied.flatMap fun m => m.name :: m.copies) ++ (vs.map (·.1)).map (·.name))) := by
    rw [hkeys, ← List.append_assoc]
    refine .append_right _ ?_
    refine ((perm_bodyBindings p .nothing).append_right _).trans ?_
    rw [List.append_assoc]
    exact .append_left _ List.perm_append_comm
  refine hperm.nodup_iff.mpr ((nodup_notedNames p).append (hbound.sublist hsub) fun n hn hmem => ?_)
  exact hnot n hn (hsub.subset hmem)

end Clear

end DomainModel
