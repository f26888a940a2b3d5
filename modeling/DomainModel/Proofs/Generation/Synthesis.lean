import DomainModel.Proofs.Generation.Contribution
import DomainModel.Proofs.Generation.Stages

/-!
# What a checked directive is made of

Making a fragment means to look fields up, and a field that is not there is an error. What a check lets through has them
all (`check_synthesizes`): a name stands for the first field that has it, both for the conditions of a role and for its
fragment, and so what is found is what the conditions have accepted.
-/

namespace DomainModel

/-- The field that a name stands for, the first one of that name, has a type as it is asked for. -/
def Declaration.Finds (d : Declaration) (name : String) (q : Requirement) (f : Field) : Prop :=
  ∃ before after, d.fields = before ++ f :: after ∧ (∀ g ∈ before, g.name ≠ name) ∧ f.name = name ∧ q.Allows f.type

/-- A fragment is made of the fields that its role looks up. -/
inductive Fragment.MadeOf (d : Declaration) (a : Applied) (x : Fragment) : Prop
  | entity {id version : Field} {others : List Member} : a.role = .entity → d.kind = .record → d.Finds "id" .identifier id →
    d.Finds "version" .integer version →
    x.members = Fragment.contractAccessor id :: Fragment.contractAccessor version :: others → MadeOf d a x
  | valueObject {value : Field} {error : ValueError} : a.role = .valueObject → d.kind = .record → d.fields = [value] →
    value.name = "value" → x.error = some error → x.members = [.display "value", .equality d.name "value", .hash "value", .clone d.name value.name,
      .tryFrom d.name value.name value.type.annotation error.name] → MadeOf d a x
  | domainEvent {occurred id aggregateId version : Field} : a.role = .domainEvent → d.kind = .record →
    d.Finds "occurred" .timestamp occurred → d.Finds "id" .identifier id → d.Finds "aggregate_id" .identifier aggregateId →
    d.Finds "version" .integer version → x.members = [occurred, id, aggregateId, version].map Fragment.contractAccessor → MadeOf d a x
  | domainEvents : a.role = .domainEvents → d.kind = .sum →
    x.members = (Fragment.eventAccessors.map fun e => .dispatch d.name (d.variants.map (·.name)) e.1 e.2) → MadeOf d a x
  | marker : a.role = .command ∨ a.role = .query → x.members = [] → MadeOf d a x

/-! ## Descriptors -/

namespace Declaration
variable {d : Declaration} {c : Descriptor}

theorem name_of_describe (h : d.describe = .ok c) : c.name = d.name := by
  rw [describe] at h
  split at h <;> cases h <;> rfl

theorem fields_of_describe (h : d.describe = .ok c) (hc : c.IsRecord) : d.kind = .record ∧ c.fields = d.fields := by
  rw [Descriptor.isRecord_iff] at hc
  rw [describe] at h
  split at h
  · next hk =>
    cases h
    exact ⟨hk, rfl⟩
  · cases h
    cases hc
  · cases h

theorem variants_of_describe (h : d.describe = .ok c) (hc : c.IsSum) : d.kind = .sum ∧ c.variants = d.variants := by
  rw [Descriptor.isSum_iff] at hc
  rw [describe] at h
  split at h
  · cases h
    cases hc
  · next hk =>
    cases h
    exact ⟨hk, rfl⟩
  · cases h

theorem finds_of_has {n : String} {q : Requirement} (h : c.Has n q) (hfields : c.fields = d.fields) :
    ∃ f, Fragment.lookUp c n q = .ok f ∧ d.Finds n q f := by
  obtain ⟨before, f, after, hsplit, hbefore, hname, hq⟩ := h
  have hfind : c.field? n = some f := by
    rw [Descriptor.field?, hsplit, List.find?_eq_some_iff_append]
    exact ⟨decide_eq_true hname, before, after, rfl, fun g hg => by simpa using hbefore g hg⟩
  exact ⟨f, by rw [Fragment.lookUp, hfind], before, after, hfields ▸ hsplit, hbefore, hname, hq⟩

end Declaration

/-! ## Fragments -/

theorem Member.foldl_put_cons {m : Member} {xs ms : List Member} (h : ∀ x ∈ xs, m.name ≠ x.name) :
    xs.foldl (fun ms x => x.put ms) (m :: ms) = m :: xs.foldl (fun ms x => x.put ms) ms := by
  induction xs generalizing ms with
  | nil => rfl
  | cons x xs ih =>
    rw [List.forall_mem_cons] at h
    rw [List.foldl_cons, List.foldl_cons, put, if_neg h.1, ih h.2]

namespace Fragment
variable {d : Declaration} {a : Applied}

theorem members_of_entity (c : Descriptor) (name : String) {id version : Field} (hid : id.name = "id")
    (hversion : version.name = "version") : ∃ others,
    ((c.fields.filter fun f => f.name ≠ "id" ∧ f.name ≠ "version").map contractAccessor).foldl (fun ms m => m.put ms)
      [contractAccessor id, contractAccessor version, .equality name "id", .hash "id"] =
        contractAccessor id :: contractAccessor version :: others := by
  have hother : ∀ m ∈ (c.fields.filter fun f => f.name ≠ "id" ∧ f.name ≠ "version").map contractAccessor,
      m.name ≠ "id" ∧ m.name ≠ "version" := by
    intro m hm
    obtain ⟨f, hf, rfl⟩ := List.mem_map.mp hm
    rw [name_contractAccessor]
    simpa using (List.mem_filter.mp hf).2
  refine ⟨_, (Member.foldl_put_cons fun m hm => ?_).trans (congrArg _ (Member.foldl_put_cons fun m hm => ?_))⟩
  · rw [name_contractAccessor, hid]
    exact (hother m hm).1.symm
  · rw [name_contractAccessor, hversion]
    exact (hother m hm).2.symm

theorem madeOf_of_entity (h : Fits d a) (hr : a.role = .entity) : ∃ x, ofEntity a = .ok x ∧ MadeOf d a x := by
  obtain ⟨hrecord, hid, hversion, -⟩ : Role.entity.Meets a.descriptor := hr ▸ Role.fault?_eq_none_iff_meets.mp h.conditions
  obtain ⟨hkind, hfields⟩ := Declaration.fields_of_describe h.describes hrecord
  obtain ⟨id, hlook, hfinds⟩ := Declaration.finds_of_has hid hfields
  obtain ⟨version, hlook', hfinds'⟩ := Declaration.finds_of_has hversion hfields
  have hnames : id.name = "id" ∧ version.name = "version" := by
    obtain ⟨-, -, -, -, hid, -⟩ := hfinds
    obtain ⟨-, -, -, -, hversion, -⟩ := hfinds'
    exact ⟨hid, hversion⟩
  obtain ⟨others, hmembers⟩ := members_of_entity a.descriptor a.descriptor.name hnames.1 hnames.2
  exact ⟨_, by rw [ofEntity, hlook, hlook']; rfl, .entity hr hkind hfinds hfinds' hmembers⟩

theorem madeOf_of_valueObject (h : Fits d a) (hr : a.role = .valueObject) : ∃ x, ofValueObject a = .ok x ∧ MadeOf d a x := by
  obtain ⟨hrecord, value, hvalue, hname⟩ : Role.valueObject.Meets a.descriptor :=
    hr ▸ Role.fault?_eq_none_iff_meets.mp h.conditions
  obtain ⟨hkind, hfields⟩ := Declaration.fields_of_describe h.describes hrecord
  refine ⟨_, by rw [ofValueObject, hvalue], .valueObject hr hkind (hfields ▸ hvalue) hname rfl ?_⟩
  rw [← Declaration.name_of_describe h.describes]

theorem madeOf_of_domainEvent (h : Fits d a) (hr : a.role = .domainEvent) : ∃ x, ofDomainEvent a = .ok x ∧ MadeOf d a x := by
  obtain ⟨hrecord, hid, haggregate, hoccurred, hversion⟩ : Role.domainEvent.Meets a.descriptor :=
    hr ▸ Role.fault?_eq_none_iff_meets.mp h.conditions
  obtain ⟨hkind, hfields⟩ := Declaration.fields_of_describe h.describes hrecord
  obtain ⟨occurred, hlook₁, hfinds₁⟩ := Declaration.finds_of_has hoccurred hfields
  obtain ⟨id, hlook₂, hfinds₂⟩ := Declaration.finds_of_has hid hfields
  obtain ⟨aggregateId, hlook₃, hfinds₃⟩ := Declaration.finds_of_has haggregate hfields
  obtain ⟨version, hlook₄, hfinds₄⟩ := Declaration.finds_of_has hversion hfields
  exact ⟨_, by rw [ofDomainEvent, hlook₁, hlook₂, hlook₃, hlook₄]; rfl, .domainEvent hr hkind hfinds₁ hfinds₂ hfinds₃ hfinds₄ rfl⟩

theorem madeOf_of_domainEvents (h : Fits d a) (hr : a.role = .domainEvents) : MadeOf d a (ofDomainEvents a) := by
  have hsum : Role.domainEvents.Meets a.descriptor := hr ▸ Role.fault?_eq_none_iff_meets.mp h.conditions
  obtain ⟨hkind, hvariants⟩ := Declaration.variants_of_describe h.describes hsum
  refine .domainEvents hr hkind ?_
  rw [← Declaration.name_of_describe h.describes, ← hvariants]
  rfl

theorem exists_madeOf (h : Fits d a) : ∃ x, a.fragment = .ok x ∧ MadeOf d a x := by
  rw [Applied.fragment]
  cases hr : a.role with
  | entity => exact madeOf_of_entity h hr
  | valueObject => exact madeOf_of_valueObject h hr
  | domainEvent => exact madeOf_of_domainEvent h hr
  | domainEvents => exact ⟨_, rfl, madeOf_of_domainEvents h hr⟩
  | command => exact ⟨_, rfl, .marker (.inl hr) rfl⟩
  | query => exact ⟨_, rfl, .marker (.inr hr) rfl⟩

end Fragment

/-- Each directive that a check lets through gives a fragment. What its role looks up is there, and has a type that the
conditions of the role have accepted, also if the declaration was never read from a file and repeats the names of fields. -/
theorem check_synthesizes {d : Declaration} {roles : List Applied} (h : d.check = .ok roles) :
    ∀ a ∈ roles, ∃ x, a.fragment = .ok x ∧ x.role = a.role ∧ x.directive = a.directive ∧ Fragment.MadeOf d a x := by
  intro a ha
  have hfits := (Declaration.check_eq_ok_iff.mp h).2.1 a ha
  obtain ⟨x, hx, hmade⟩ := Fragment.exists_madeOf hfits
  obtain ⟨y, hy, hcontributes⟩ := exists_fragment hfits.conditions
  obtain rfl := Except.ok.inj (hx.symm.trans hy)
  exact ⟨x, hx, hcontributes.role, hcontributes.directive, hmade⟩

/-- A record that was never read from a file, with two fields of each name. The first ones count. -/
theorem check_synthesizes_repeated : ∃ (d : Declaration) (roles : List Applied), d.check = .ok roles ∧
    d.fields.map (fun f => (f.name, f.type.name)) = [("id", "uuid"), ("id", "string"), ("version", "int8"), ("version", "string")] ∧
    ∀ a ∈ roles, ∃ x, a.fragment = .ok x ∧ Fragment.MadeOf d a x ∧
      .accessor "id" "UUID" (.stored "id") [] ∈ x.members ∧ .accessor "version" "int" (.count "version") [] ∈ x.members := by
  let d : Declaration :=
    { kind := .record, name := "User", directives := [⟨"entity", [], none⟩]
      fields := [⟨"id", ⟨"uuid", []⟩, .hidden, [], none⟩, ⟨"id", ⟨"string", []⟩, .hidden, [], none⟩,
        ⟨"version", ⟨"int8", []⟩, .hidden, [], none⟩, ⟨"version", ⟨"string", []⟩, .hidden, [], none⟩] }
  let a : Applied := ⟨.entity, ⟨"entity", [], none⟩, ⟨"User", [], none, .record d.fields⟩⟩
  have hcheck : d.check = .ok [a] := by cbv
  refine ⟨d, [a], hcheck, rfl, fun b hb => ?_⟩
  obtain ⟨x, hx, -, -, hmade⟩ := check_synthesizes hcheck b hb
  obtain rfl := List.mem_singleton.mp hb
  have hmembers : x.members = [.accessor "id" "UUID" (.stored "id") [], .accessor "version" "int" (.count "version") [],
      .equality "User" "id", .hash "id"] := by
    obtain rfl := Except.ok.inj (hx.symm.trans (by cbv))
    rfl
  exact ⟨x, hx, hmade, by simp [hmembers], by simp [hmembers]⟩

/-- What no check has let through need not have what is looked up. -/
example : (Applied.mk .entity ⟨"entity", [], none⟩ ⟨"User", [], none, .record []⟩).fragment = .error (.missingField "id" .identifier) :=
  rfl

end DomainModel
