import DomainModel.Proofs.Live.Accessing

/-!
# Fields of records

Which fields of a record can be read and assigned, by its directives and by what is public, and what its class binds to their
names: a property that reads and stores a field, an accessor that only reads it, or nothing.
-/

namespace DomainModel

open Live Live.Loading

/-! ## Fields that directives claim -/

namespace Declaration

/-- A directive gives a field an accessor that is not made for all fields. -/
def Claims (d : Declaration) (n : String) : Prop :=
  (d.Carries .domainEvent ∧ n ∈ ["occurred", "id", "aggregate_id", "version"]) ∨ (d.Carries .valueObject ∧ n = "value")

instance (d : Declaration) (n : String) : Decidable (d.Claims n) := inferInstanceAs (Decidable (_ ∨ _))

/-- A field can be assigned if it is public and no directive claims it. -/
def Assignable (d : Declaration) (y : Field) : Prop := y.isExposed = true ∧ ¬d.Claims y.name

instance (d : Declaration) (y : Field) : Decidable (d.Assignable y) := inferInstanceAs (Decidable (_ ∧ _))

/-- A field can be read if it is public, or of an entity, or claimed. -/
def Readable (d : Declaration) (y : Field) : Prop := y.isExposed = true ∨ d.Carries .entity ∨ d.Claims y.name

instance (d : Declaration) (y : Field) : Decidable (d.Readable y) := inferInstanceAs (Decidable (_ ∨ _ ∨ _))

/-- The versions of entities and events are read as whole numbers. -/
def Counts (d : Declaration) (n : String) : Prop := n = "version" ∧ (d.Carries .entity ∨ d.Carries .domainEvent)

instance (d : Declaration) (n : String) : Decidable (d.Counts n) := inferInstanceAs (Decidable (_ ∧ _))

/-- A record with contracts would store a field where an abstract class keeps its record of other classes. -/
def Loses (d : Declaration) : Prop := d.contracts ≠ [] ∧ "abc_impl" ∈ d.fields.map (·.name)

instance (d : Declaration) : Decidable d.Loses := inferInstanceAs (Decidable (_ ∧ _))

end Declaration

namespace Outline

variable {d : Declaration} {c : Descriptor} {roles : List Applied} {fs : List Fragment} {p : ClassPlan} {y : Field}
variable (h : Outline d c roles fs p) (hown : d.HoldsOwnParts)
include h

theorem isExposed_of_entity (hown : d.HoldsOwnParts) (hr : d.Carries .entity) (hy : y ∈ d.fields) : y.isExposed = false := by
  have hfault := h.fault?_of_carries hr
  rw [Role.fault?, List.findSome?_eq_none_iff] at hfault
  have hcondition := hfault .noExposedField (by decide)
  rw [Condition.fault?, Option.map_eq_none_iff, List.find?_eq_none, (h.layout_eq hown).2.2.2] at hcondition
  exact Bool.eq_false_iff.mpr (hcondition y hy)

theorem carries_valueObject (hb : .valueObject ∈ p.bases) : d.Carries .valueObject := by
  obtain ⟨r, q, hr, he⟩ := h.exists_role_of_base hb
  obtain rfl : r = .valueObject := by cases r <;> cases q <;> first | rfl | cases he
  exact hr

include hown

theorem name_of_value (hr : d.Carries .valueObject) (hy : y ∈ d.fields) : y.name = "value" := by
  obtain ⟨f, hfields, hname, -, -⟩ := h.supplied_of_value hown hr
  rw [hfields] at hy
  rw [List.mem_singleton.mp hy, hname]

theorem layout_of_record (hk : d.kind = .record) : ∃ assignable, p.layout = .record d.fields assignable := by
  have hkind := (h.layout_eq hown).1.trans hk
  have hfields := (h.layout_eq hown).2.2.2
  rw [h.plan] at hkind ⊢
  cases hshape : c.shape with
  | record fields =>
    rw [Descriptor.fields, hshape] at hfields
    rw [← hfields]
    exact ⟨_, rfl⟩
  | sum variants =>
    simp only [ClassPlan.layOut, hshape] at hkind
    cases hkind

/-- What directives supply for a field of a record is an accessor of an entity or of an event. -/
theorem not_mem_supplied (hk : d.kind = .record) (hi : isInternal y.name = false) (hy : y ∈ d.fields) (he : ¬d.Carries .entity)
    (hc : ¬(d.Carries .domainEvent ∧ y.name ∈ ["occurred", "id", "aggregate_id", "version"])) :
    y.name ∉ p.supplied.flatMap (fun m => m.name :: m.copies) := by
  intro hmem
  obtain ⟨m, hm, hn⟩ := List.mem_flatMap.mp hmem
  rcases List.mem_cons.mp hn with hn | hn
  · have hname : y.name ∈ p.supplied.map Member.name := hn ▸ List.mem_map_of_mem hm
    obtain ⟨r, hr, hs⟩ := h.mem_supplied.mp hname
    rw [Role.supplies_iff (h.fault?_of_carries hr)] at hs
    cases r with
    | entity => exact he hr
    | valueObject =>
      rw [h.name_of_value hown hr hy] at hs
      rcases hs with ⟨hs, -⟩ | ⟨-, hs⟩
      · exact absurd hs (by decide)
      · cases hs
    | domainEvent =>
      rcases hs with ⟨hs, -⟩ | ⟨-, hs⟩
      · cases hs
      · exact hc ⟨hr, of_decide_eq_true hs⟩
    | domainEvents =>
      have hsum := (h.kind_of_carries hown hr).2 rfl
      rw [hk] at hsum
      cases hsum
    | command => simp [Role.functions, Role.accesses] at hs
    | query => simp [Role.functions, Role.accesses] at hs
  · obtain ⟨hn, -⟩ := h.mem_copies.mp (List.mem_flatMap.mpr ⟨m, hm, hn⟩)
    rw [hn] at hi
    exact absurd hi (by decide)

theorem mem_assigned_iff (hk : d.kind = .record) (hi : isInternal y.name = false) (hy : y ∈ d.fields)
    (hn : (d.fields.map (·.name)).Nodup) : y.name ∈ p.layout.assigned ↔ d.Assignable y := by
  rw [h.mem_assigned hown]
  constructor
  · rintro ⟨⟨f, hf, hname, hexposed⟩, hsupplied, hreserved⟩
    obtain rfl : f = y := List.inj_on_of_nodup_map hn hf hy hname
    refine ⟨hexposed, fun hc => ?_⟩
    rcases hc with ⟨hr, hevent⟩ | ⟨hr, hvalue⟩
    · obtain ⟨g, -, hg, hmem⟩ := h.supplied_of_event hown hn hr _ hevent
      refine hsupplied (List.mem_map.mpr ⟨_, hmem, ?_⟩)
      rw [Fragment.name_contractAccessor, hg]
    · exact hreserved _ hr (hvalue ▸ by decide)
  · rintro ⟨hexposed, hc⟩
    have he : ¬d.Carries .entity := fun hr => by
      rw [h.isExposed_of_entity hown hr hy] at hexposed
      cases hexposed
    refine ⟨⟨y, hy, rfl, hexposed⟩, fun hmem => ?_, fun r hr hmem => ?_⟩
    · obtain ⟨m, hm, hname⟩ := List.mem_map.mp hmem
      refine h.not_mem_supplied hown hk hi hy he (fun hevent => hc (.inl hevent)) ?_
      exact List.mem_flatMap.mpr ⟨m, hm, hname ▸ List.mem_cons_self⟩
    · cases r with
      | valueObject => exact hc (.inr ⟨hr, h.name_of_value hown hr hy⟩)
      | _ => cases hmem

end Outline

/-! ## What the class of a record binds -/

namespace Live

open Run Request

section
variable {references : List String} {m : Module} {d : Declaration} {w : World} {p : ClassPlan} {c k : ClassRef}
  {vs : List (Variant × ClassRef)} {n : String} {x : Value} {y : Field}

/-- A name of which the plan says nothing, and which the contracts bind to one thing only, is bound to that. -/
theorem Loading.Embodies.bound?_inherited (h : Embodies w p c vs) (ho : w.Orderly) {b : Contract} (hb : b ∈ p.bases)
    (hn : n ∉ unsettledNames p) (hhash : n ≠ "__hash__") (hfree : n ∉ (table p c vs).map (·.1))
    (hx : World.initial.member? (.contract b) n = some x)
    (hall : ∀ b ∈ p.bases, ∀ k ∈ b.linearization, World.initial.member? k n = none ∨ World.initial.member? k n = some x) :
    w.bound? c n = some x := by
  obtain ⟨line, hline, hbehind, hclosed⟩ := h.behind
  have hbases : ∀ b : Contract, .object ∈ b.linearization ∧ .contract b ∈ b.linearization ∧
      ∀ k ∈ b.linearization, ∀ index, k ≠ .made index := by
    intro b
    cases b <;> decide
  have hmember : ∀ k ∈ line, w.member? k n = World.initial.member? k n ∧
      (World.initial.member? k n = none ∨ World.initial.member? k n = some x) := by
    intro k hk
    have hcontract : ∃ b ∈ p.bases, k ∈ b.linearization := by
      rcases hclosed k hk with rfl | hmem
      · exact ⟨b, hb, (hbases b).1⟩
      · exact hmem
    obtain ⟨b', hb', hkb⟩ := hcontract
    exact ⟨(ho.ground k ((hbases b').2.2 k hkb)).member? n (mem_unsettledNames hn).1, hall b' hb' k hkb⟩
  have hown : .contract b ∈ line := hbehind b hb (hbases b).2.1
  have hsome : (line.findSome? (w.member? · n)).isSome := by
    rw [List.findSome?_isSome_iff]
    exact ⟨_, hown, by rw [(hmember _ hown).1, hx]; rfl⟩
  obtain ⟨v, hv⟩ := Option.isSome_iff_exists.mp hsome
  obtain ⟨k, hk, hkv⟩ := List.exists_of_findSome?_eq_some hv
  rw [World.bound?, hline, World.firstMember?, List.findSome?_cons, h.free n hn hhash hfree]
  dsimp only
  rw [hv, ← hkv]
  obtain ⟨he, hnone | hsome⟩ := hmember k hk
  · rw [he, hnone] at hkv
    cases hkv
  · rw [he, hsome]

end

namespace World.Hosts

variable {m : Module} {d : Declaration} {w : World} {p : ClassPlan} {c : ClassRef} {vs : List (Variant × ClassRef)} {y : Field}
variable (h : w.Hosts m d p c vs) (hk : d.kind = .record) (hy : y ∈ d.fields)
include h

theorem isInternal_field (hy : y ∈ d.fields) : isInternal y.name = false :=
  h.clear.internal _ (Declaration.mem_declared_of_field (List.mem_map_of_mem hy))

theorem mem_supplied (hy : y ∈ d.fields)
    (hr : d.Carries .entity ∨ (d.Carries .domainEvent ∧ y.name ∈ ["occurred", "id", "aggregate_id", "version"])) :
    Fragment.contractAccessor y ∈ p.supplied := by
  obtain ⟨e, roles, fs, ho⟩ := h.clear.outline
  have hnodup := h.clear.named.distinct_fields
  rcases hr with he | ⟨he, hname⟩
  · have hspecial : ∀ f ∈ d.fields, f.name ∉ ["__eq__", "__hash__"] := fun f hf =>
      not_mem_of_eq_false (h.isInternal_field hf) (by decide)
    exact (ho.supplied_of_entity h.clear.own hnodup hspecial he).1 y hy
  · obtain ⟨f, hf, hfname, hmem⟩ := ho.supplied_of_event h.clear.own hnodup he _ hname
    obtain rfl : f = y := List.inj_on_of_nodup_map hnodup hf hy hfname
    exact hmem

include hk

theorem variants_eq_nil : vs = [] := by
  have hown := h.clear.own
  rw [Declaration.HoldsOwnParts, hk] at hown
  have hvariants := h.variants
  rw [h.clear.variants_eq, hown.1] at hvariants
  exact List.map_eq_nil_iff.mp hvariants

include hy

theorem bound?_assignable (ha : d.Assignable y) : ∃ g s, w.bound? c y.name = some (.property g (some s)) ∧
    g.body = .stored y.name ∧ s.body = .store y.name := by
  obtain ⟨e, roles, fs, ho⟩ := h.clear.outline
  obtain ⟨assignable, hlayout⟩ := ho.layout_of_record h.clear.own hk
  have hmem := (ho.mem_assigned_iff h.clear.own hk (h.isInternal_field hy) hy h.clear.named.distinct_fields).mpr ha
  rw [hlayout] at hmem
  obtain ⟨f, hf, hname⟩ := List.mem_map.mp hmem
  have hbound : ∀ b ∈ memberBindings p.name (ClassPlan.fieldProperty f), w.bound? c b.1 = some b.2 ∨ b.1 ≠ y.name := by
    intro b hb
    by_cases hn : b.1 = y.name
    · refine .inl (h.bound?_layout ?_ (not_mem_strayNames (hn ▸ h.isInternal_field hy)))
      rw [hlayout]
      exact List.mem_append_right _ (List.mem_flatMap.mpr ⟨_, List.mem_map_of_mem hf, hb⟩)
    · exact .inr hn
  have hproperty := (hbound _ (List.mem_singleton_self _)).resolve_right (fun hne => hne hname)
  rw [← hname]
  exact ⟨_, _, hproperty, rfl, rfl⟩

theorem not_mem_table (hexposed : ¬d.Assignable y)
    (hc : y.name ∉ p.supplied.flatMap fun m => m.name :: m.copies) : y.name ∉ (table p c vs).map (·.1) := by
  obtain ⟨e, roles, fs, ho⟩ := h.clear.outline
  have hi := h.isInternal_field hy
  have hspecial : y.name ∉ ["__doc__", annotationsName] ++ Kind.record.functions := not_mem_of_eq_false hi (by decide)
  simp only [table, List.map_append, List.mem_append, not_or]
  refine ⟨⟨fun hmem => ?_, fun hmem => ?_⟩, fun hmem => ?_⟩
  · rcases mem_bodyBindings_iff.mp hmem with hn | hn | hn | hn
    · exact hspecial (List.mem_append_left _ (notedNames_subset p hn))
    · rw [(ho.layout_eq h.clear.own).1, hk] at hn
      exact hspecial (List.mem_append_right _ hn)
    · exact hexposed ((ho.mem_assigned_iff h.clear.own hk hi hy h.clear.named.distinct_fields).mp hn)
    · exact hc hn
  · obtain ⟨x, hx, hname⟩ := List.mem_map.mp hmem
    obtain ⟨n, hn, rfl⟩ := List.mem_map.mp hx
    obtain ⟨f, -, rfl, -⟩ := h.clear.exists_of_mem_places hn
    rw [← hname, isInternal_slot] at hi
    cases hi
  · rw [h.variants_eq_nil hk] at hmem
    cases hmem

theorem bound?_claimed (hr : d.Readable y) (ha : ¬d.Assignable y) : ∃ g, w.bound? c y.name = some (.property g none) ∧
    g.body = if d.Counts y.name then .count "version" else .stored y.name := by
  obtain ⟨e, roles, fs, ho⟩ := h.clear.outline
  have hi := h.isInternal_field hy
  have haccessor : Fragment.contractAccessor y ∈ p.supplied → d.Carries .entity ∨ d.Carries .domainEvent →
      ∃ g, w.bound? c y.name = some (.property g none) ∧ g.body = if d.Counts y.name then .count "version" else .stored y.name := by
    intro hmem hroles
    obtain ⟨g, hg, hbody⟩ := h.bound?_contractAccessor hmem hi
    refine ⟨g, hg, hbody.trans ?_⟩
    simp only [Declaration.Counts, hroles, and_true]
  by_cases he : d.Carries .entity
  · exact haccessor (h.mem_supplied hy (.inl he)) (.inl he)
  · have hclaims : d.Claims y.name := by
      rcases hr with hexposed | hentity | hclaims
      · by_contra hc
        exact ha ⟨hexposed, hc⟩
      · exact absurd hentity he
      · exact hclaims
    rcases hclaims with hevent | ⟨hvalue, hname⟩
    · exact haccessor (h.mem_supplied hy (.inr hevent)) (.inr hevent.1)
    · obtain ⟨publishes, hbase⟩ := ho.base_mem_bases hvalue
      have hnot : "value" ∉ ["occurred", "id", "aggregate_id", "version"] := by decide
      have hfree := ho.not_mem_supplied h.clear.own hk hi hy he fun hevent => hnot (hname ▸ hevent.2)
      have hcontracts : ∀ b : Contract, b ≠ .valueValidationError → ∀ k ∈ b.linearization, World.initial.member? k "value" = none ∨
          World.initial.member? k "value" = World.initial.member? (.contract .valueObject) "value" := by
        intro b
        cases b <;> decide
      have hbound := h.embodies.bound?_inherited h.orderly (n := y.name) hbase
        (fun hmem => absurd (unsettledNames_subset p hmem) (by rw [hname]; decide)) (by rw [hname]; decide)
        (h.not_mem_table hk hy ha hfree) (by rw [hname]; rfl)
        fun b hb k hk => by rw [hname]; exact hcontracts b (h.clear.base_mem b hb).1 k hk
      refine ⟨_, hbound, ?_⟩
      rw [hname]
      rfl

omit hk hy in
theorem not_mem_unsettledNames (hn : isInternal n = false) (he : ¬d.Carries .entity) : n ∉ unsettledNames p := by
  obtain ⟨e, roles, fs, ho⟩ := h.clear.outline
  intro hmem
  simp only [unsettledNames, List.mem_append] at hmem
  rcases hmem with ((hmem | hmem) | hmem) | hmem
  · exact not_mem_of_eq_false hn (by decide) hmem
  · exact not_mem_of_eq_false hn (by decide) hmem
  · split at hmem
    · cases hmem
    · exact not_mem_of_eq_false hn (by decide) hmem
  · have hpublishes := ho.mem_events.mp hmem
    split at hpublishes
    · next hevents =>
      obtain ⟨x, hx, hentity, -⟩ := hevents
      exact he (List.mem_map.mpr ⟨x, hx, hentity⟩)
    · cases hpublishes

theorem not_mem_inheritedNames (he : ¬d.Carries .entity) (hc : ¬d.Claims y.name) {b : Contract} (hb : b ∈ p.bases) :
    y.name ∉ inheritedNames b := by
  obtain ⟨e, roles, fs, ho⟩ := h.clear.outline
  have hi := h.isInternal_field hy
  obtain ⟨r, q, hr, rfl⟩ := ho.exists_role_of_base hb
  intro hmem
  cases r with
  | entity => exact he hr
  | valueObject => exact hc (.inr ⟨hr, ho.name_of_value h.clear.own hr hy⟩)
  | domainEvent =>
    have hall : ∀ n ∈ inheritedNames .domainEvent, isInternal n = true ∨ n ∈ ["occurred", "id", "aggregate_id", "version"] := by
      decide
    rcases hall _ hmem with hmem | hmem
    · rw [hmem] at hi
      cases hi
    · exact hc (.inl ⟨hr, hmem⟩)
  | domainEvents =>
    have hsum := (ho.kind_of_carries h.clear.own hr).2 rfl
    rw [hk] at hsum
    cases hsum
  | command => exact not_mem_of_eq_false (l := inheritedNames .command) hi (by decide) hmem
  | query => exact not_mem_of_eq_false (l := inheritedNames .query) hi (by decide) hmem

theorem bound?_unreadable (hr : ¬d.Readable y) : w.bound? c y.name = none := by
  obtain ⟨e, roles, fs, ho⟩ := h.clear.outline
  have hi := h.isInternal_field hy
  rw [Declaration.Readable, not_or, not_or] at hr
  obtain ⟨hexposed, he, hc⟩ := hr
  have hfree := h.not_mem_table hk hy (fun ha => hexposed ha.1)
    (ho.not_mem_supplied h.clear.own hk hi hy he fun hevent => hc (.inl hevent))
  have hhash : y.name ≠ "__hash__" := fun hn =>
    not_mem_of_eq_false (l := ["__hash__"]) hi (by decide) (hn ▸ List.mem_cons_self)
  -- neither the class nor its contracts bind the name, nor does the root of all classes
  rw [h.embodies.bound?_of_free h.orderly h.clear (h.not_mem_unsettledNames hi he) hhash hfree
    fun b hb => h.not_mem_inheritedNames hk hy he hc hb]
  have hroot : Builtin.memberKind? "object" y.name = none := by
    rw [Option.eq_none_iff_forall_ne_some]
    intro kind hkind
    obtain ⟨ns, hns, hn⟩ := Attribute.mem_of_memberKind? hkind
    have hall : ∀ r ∈ Builtin.members "object", ∀ n ∈ r.2, isInternal n = true := by decide
    exact not_mem_of_eq_false hi (hall _ hns) hn
  rw [Builtin.member?_of_not_mem (not_mem_of_eq_false hi (by decide)), hroot]
  rfl

end World.Hosts

end Live

end DomainModel
