import DomainModel.Fragment
import DomainModel.Proofs.Generation.Checked

/-!
# What a checked directive contributes

A directive that fits its declaration always gives a fragment (`exists_fragment`): the conditions of
its role are what the fragment looks up. `Role.Supplies` says which names its members have; two roles of
one declaration supply the same name only if they are an entity and a domain event (`eq_of_supplies`).
-/

namespace DomainModel

/-! ## Putting members under their names -/

namespace Member

theorem map_name_put (m : Member) (ms : List Member) :
    (m.put ms).map name = if m.name ∈ ms.map name then ms.map name else ms.map name ++ [m.name] := by
  induction ms with
  | nil => rfl
  | cons x ms ih =>
    rw [put]
    by_cases hx : x.name = m.name
    · simp [hx]
    · rw [if_neg hx, List.map_cons, ih]
      by_cases hm : m.name ∈ ms.map name
      · simp [hm]
      · have hno : m.name ∉ x.name :: ms.map name := by simp [Ne.symm hx, hm]
        rw [if_neg hm, List.map_cons, if_neg hno]
        rfl

theorem mem_put {m : Member} {ms : List Member} {n : String} :
    n ∈ (m.put ms).map name ↔ n ∈ ms.map name ∨ n = m.name := by
  rw [map_name_put]
  split
  · next h => exact ⟨.inl, fun hn => hn.elim id fun he => he ▸ h⟩
  · rw [List.mem_append, List.mem_singleton]

theorem nodup_put {m : Member} {ms : List Member} (h : (ms.map name).Nodup) : ((m.put ms).map name).Nodup := by
  rw [map_name_put]
  split
  · exact h
  · next hm =>
    rw [List.nodup_append]
    refine ⟨h, by simp, fun a ha b hb => ?_⟩
    rw [List.mem_singleton.mp hb]
    exact fun he => hm (he ▸ ha)

theorem mem_foldl_put {xs ms : List Member} {n : String} :
    n ∈ (xs.foldl (fun ms m => m.put ms) ms).map name ↔ n ∈ ms.map name ∨ n ∈ xs.map name := by
  induction xs generalizing ms with
  | nil => simp
  | cons x xs ih => rw [List.foldl_cons, ih, mem_put, List.map_cons, List.mem_cons, or_assoc]

theorem nodup_foldl_put {xs ms : List Member} (h : (ms.map name).Nodup) :
    ((xs.foldl (fun ms m => m.put ms) ms).map name).Nodup := by
  induction xs generalizing ms with
  | nil => exact h
  | cons x xs ih => exact ih (nodup_put h)

end Member

/-! ## Names of members -/

namespace Role

/-- The names that the members of a role have on a declaration. -/
def Supplies (r : Role) (d : Descriptor) (n : String) : Prop :=
  match r with
  | entity => n ∈ ["id", "version", "__eq__", "__hash__"] ∨ n ∈ d.fields.map (·.name)
  | valueObject => n ∈ ["__str__", "__eq__", "__hash__", "clone", "try_from"]
  | domainEvent | domainEvents => n ∈ ["occurred", "id", "aggregate_id", "version"]
  | command | query => False

variable {r r' : Role} {d : Descriptor} {n : String}

theorem mem_fields_of_supplies (h : r.Supplies d "events") : "events" ∈ d.fields.map (·.name) := by
  cases r with
  | entity => exact h.elim (fun hn => absurd hn (by decide)) id
  | valueObject => exact absurd h (by rw [Supplies]; decide)
  | domainEvent => exact absurd h (by rw [Supplies]; decide)
  | domainEvents => exact absurd h (by rw [Supplies]; decide)
  | command => cases h
  | query => cases h

theorem exists_id (h : r.fault? d = none) (hr : r = entity ∨ r = domainEvent) : ∃ f ∈ d.fields, f.name = "id" := by
  rw [fault?_eq_none_iff] at h
  have hid : (Condition.hasField "id" .identifier).fault? d = none := by
    rcases hr with rfl | rfl <;> exact h _ (by simp [conditions])
  obtain ⟨f, hf, -⟩ := Condition.hasField_iff.mp hid
  exact ⟨f, Descriptor.mem_of_field? hf⟩

theorem name_of_valueObject (h : valueObject.fault? d = none) : ∀ f ∈ d.fields, f.name = "value" := by
  rw [fault?_eq_none_iff] at h
  obtain ⟨g, hg, hn⟩ := Condition.singleValue_iff.mp (h .singleValue (by simp [conditions]))
  intro f hf
  rw [hg] at hf
  rw [List.mem_singleton.mp hf, hn]
  rfl

theorem isRecord_of_fault? (h : r.fault? d = none) (hr : r = entity ∨ r = valueObject ∨ r = domainEvent) :
    d.isRecord = true := by
  rw [fault?_eq_none_iff] at h
  refine Condition.isRecord_iff.mp (h _ ?_)
  rcases hr with rfl | rfl | rfl <;> simp [conditions]

theorem isSum_of_fault? (h : domainEvents.fault? d = none) : d.isRecord = false := by
  rw [fault?_eq_none_iff] at h
  exact Condition.isSum_iff.mp (h _ (by simp [conditions]))

theorem not_record_and_sum (h : r.fault? d = none) (hr : r = entity ∨ r = valueObject ∨ r = domainEvent)
    (h' : domainEvents.fault? d = none) : False := by
  have := isRecord_of_fault? h hr
  rw [isSum_of_fault? h'] at this
  cases this

theorem not_value_and_id (h : valueObject.fault? d = none) (h' : r.fault? d = none)
    (hr : r = entity ∨ r = domainEvent) : False := by
  obtain ⟨f, hf, hn⟩ := exists_id h' hr
  have := name_of_valueObject h f hf
  rw [hn] at this
  exact absurd this (by decide)

/-- Two roles of a declaration share a name only if they are an entity and a domain event. -/
theorem eq_of_supplies (h : r.fault? d = none) (h' : r'.fault? d = none) (hn : r.Supplies d n)
    (hn' : r'.Supplies d n) :
    r = r' ∨ (r = entity ∧ r' = domainEvent) ∨ (r = domainEvent ∧ r' = entity) := by
  cases r with
  | command => cases hn
  | query => cases hn
  | entity =>
    cases r' with
    | command => cases hn'
    | query => cases hn'
    | entity => exact .inl rfl
    | valueObject => exact (not_value_and_id h' h (.inl rfl)).elim
    | domainEvent => exact .inr (.inl ⟨rfl, rfl⟩)
    | domainEvents => exact (not_record_and_sum h (.inl rfl) h').elim
  | valueObject =>
    cases r' with
    | command => cases hn'
    | query => cases hn'
    | entity => exact (not_value_and_id h h' (.inl rfl)).elim
    | valueObject => exact .inl rfl
    | domainEvent => exact (not_value_and_id h h' (.inr rfl)).elim
    | domainEvents => exact (not_record_and_sum h (.inr (.inl rfl)) h').elim
  | domainEvent =>
    cases r' with
    | command => cases hn'
    | query => cases hn'
    | entity => exact .inr (.inr ⟨rfl, rfl⟩)
    | valueObject => exact (not_value_and_id h' h (.inr rfl)).elim
    | domainEvent => exact .inl rfl
    | domainEvents => exact (not_record_and_sum h (.inr (.inr rfl)) h').elim
  | domainEvents =>
    cases r' with
    | command => cases hn'
    | query => cases hn'
    | entity => exact (not_record_and_sum h' (.inl rfl) h).elim
    | valueObject => exact (not_record_and_sum h' (.inr (.inl rfl)) h).elim
    | domainEvent => exact (not_record_and_sum h' (.inr (.inr rfl)) h).elim
    | domainEvents => exact .inl rfl

end Role

/-! ## Fragments -/

/-- What a fragment has from the directive that it stems from. -/
structure Contributes (a : Applied) (f : Fragment) : Prop where
  role : f.role = a.role
  directive : f.directive = a.directive
  nodup : (f.members.map Member.name).Nodup
  supplies : ∀ n, n ∈ f.members.map Member.name ↔ a.role.Supplies a.descriptor n
  events : f.events = if a.role = .entity then a.directive.events? else none

theorem name_contractAccessor (f : Field) : (Fragment.contractAccessor f).name = f.name := by
  unfold Fragment.contractAccessor
  split
  · next h => exact h.symm
  · rfl

theorem lookUp_eq_ok {d : Descriptor} {n : String} {q : Requirement}
    (h : (Condition.hasField n q).fault? d = none) :
    ∃ f, Fragment.lookUp d n q = .ok f ∧ f ∈ d.fields ∧ f.name = n := by
  obtain ⟨f, hf, -⟩ := Condition.hasField_iff.mp h
  exact ⟨f, by rw [Fragment.lookUp, hf], Descriptor.mem_of_field? hf⟩

section
variable {a : Applied}

theorem ofEntity_contributes (hr : a.role = .entity) (h : a.role.fault? a.descriptor = none) :
    ∃ f, Fragment.ofEntity a = .ok f ∧ Contributes a f := by
  rw [Role.fault?_eq_none_iff, hr] at h
  obtain ⟨id, hid, -, hidn⟩ := lookUp_eq_ok (h (.hasField "id" .identifier) (by simp [Role.conditions]))
  obtain ⟨version, hv, -, hvn⟩ := lookUp_eq_ok (h (.hasField "version" .integer) (by simp [Role.conditions]))
  have hnames : ([Fragment.contractAccessor id, Fragment.contractAccessor version,
      .equality a.descriptor.name "id", .hash "id"].map Member.name) = ["id", "version", "__eq__", "__hash__"] := by
    rw [List.map_cons, List.map_cons, name_contractAccessor, name_contractAccessor, hidn, hvn]
    rfl
  refine ⟨_, by rw [Fragment.ofEntity, hid, hv]; rfl, rfl, rfl, ?_, fun n => ?_, ?_⟩
  · refine Member.nodup_foldl_put ?_
    rw [hnames]
    decide
  · rw [Member.mem_foldl_put, hnames, hr, Role.Supplies]
    by_cases hn : n ∈ ["id", "version", "__eq__", "__hash__"]
    · exact ⟨fun _ => .inl hn, fun _ => .inl hn⟩
    · have hne : n ≠ "id" ∧ n ≠ "version" := ⟨fun he => hn (by simp [he]), fun he => hn (by simp [he])⟩
      constructor
      · rintro (hm | hm)
        · exact .inl hm
        · obtain ⟨m, hmem, rfl⟩ := List.mem_map.mp hm
          obtain ⟨f, hf, rfl⟩ := List.mem_map.mp hmem
          rw [name_contractAccessor]
          exact .inr (List.mem_map_of_mem (List.mem_filter.mp hf).1)
      · rintro (hm | hm)
        · exact .inl hm
        · obtain ⟨f, hf, rfl⟩ := List.mem_map.mp hm
          refine .inr ?_
          rw [← name_contractAccessor f]
          exact List.mem_map_of_mem (List.mem_map_of_mem (List.mem_filter.mpr ⟨hf, by simpa using hne⟩))
  · rw [if_pos hr]

theorem ofValueObject_contributes (hr : a.role = .valueObject) (h : a.role.fault? a.descriptor = none) :
    ∃ f, Fragment.ofValueObject a = .ok f ∧ Contributes a f := by
  rw [Role.fault?_eq_none_iff, hr] at h
  obtain ⟨g, hg, -⟩ := Condition.singleValue_iff.mp (h .singleValue (by simp [Role.conditions]))
  refine ⟨_, by rw [Fragment.ofValueObject, hg], rfl, rfl, ?_, fun n => ?_, ?_⟩
  · show ["__str__", "__eq__", "__hash__", "clone", "try_from"].Nodup
    decide
  · rw [hr]
    rfl
  · rw [if_neg (by rw [hr]; decide)]

theorem ofDomainEvent_contributes (hr : a.role = .domainEvent) (h : a.role.fault? a.descriptor = none) :
    ∃ f, Fragment.ofDomainEvent a = .ok f ∧ Contributes a f := by
  rw [Role.fault?_eq_none_iff, hr] at h
  obtain ⟨occurred, ho, -, hon⟩ := lookUp_eq_ok (h (.hasField "occurred" .timestamp) (by simp [Role.conditions]))
  obtain ⟨id, hid, -, hidn⟩ := lookUp_eq_ok (h (.hasField "id" .identifier) (by simp [Role.conditions]))
  obtain ⟨agg, ha, -, han⟩ := lookUp_eq_ok (h (.hasField "aggregate_id" .identifier) (by simp [Role.conditions]))
  obtain ⟨version, hv, -, hvn⟩ := lookUp_eq_ok (h (.hasField "version" .integer) (by simp [Role.conditions]))
  have hnames : (([occurred, id, agg, version].map Fragment.contractAccessor).map Member.name) =
      ["occurred", "id", "aggregate_id", "version"] := by
    simp only [List.map_cons, List.map_nil, name_contractAccessor, hon, hidn, han, hvn]
  refine ⟨_, by rw [Fragment.ofDomainEvent, ho, hid, ha, hv]; rfl, rfl, rfl, ?_, fun n => ?_, ?_⟩
  · rw [hnames]
    decide
  · rw [hnames, hr, Role.Supplies]
  · rw [if_neg (by rw [hr]; decide)]

theorem ofDomainEvents_contributes (hr : a.role = .domainEvents) : Contributes a (Fragment.ofDomainEvents a) := by
  refine ⟨rfl, rfl, ?_, fun n => ?_, by rw [if_neg (by rw [hr]; decide)]; rfl⟩
  · show ["occurred", "id", "aggregate_id", "version"].Nodup
    decide
  · rw [hr]
    rfl

theorem ofMarker_contributes {base : Contract} (hr : a.role = .command ∨ a.role = .query) :
    Contributes a (Fragment.ofMarker base a) := by
  refine ⟨rfl, rfl, List.nodup_nil, fun n => ?_, ?_⟩
  · rcases hr with hr | hr <;> rw [hr] <;> exact List.mem_nil_iff n
  · rw [if_neg (by rcases hr with hr | hr <;> rw [hr] <;> decide)]
    rfl

theorem exists_fragment (h : a.role.fault? a.descriptor = none) : ∃ f, a.fragment = .ok f ∧ Contributes a f := by
  rw [Applied.fragment]
  cases hr : a.role with
  | entity => exact ofEntity_contributes hr h
  | valueObject => exact ofValueObject_contributes hr h
  | domainEvent => exact ofDomainEvent_contributes hr h
  | domainEvents => exact ⟨_, rfl, ofDomainEvents_contributes hr⟩
  | command => exact ⟨_, rfl, ofMarker_contributes (.inl hr)⟩
  | query => exact ⟨_, rfl, ofMarker_contributes (.inr hr)⟩

end

end DomainModel
