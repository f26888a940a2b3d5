import DomainModel.Proofs.Generation.Scope

/-!
# Members that roles supply

Each role supplies its own members, whatever other roles the declaration has. An entity has an accessor for each of its
fields, an event one for each field of the contract, and a sum of events one that asks the payload.
-/

namespace DomainModel

/-! ## Putting members -/

theorem Member.put_of_not_mem {m : Member} {ms : List Member} (h : m.name ∉ ms.map Member.name) : m.put ms = ms ++ [m] := by
  induction ms with
  | nil => rfl
  | cons x xs ih =>
    rw [List.map_cons, List.mem_cons, not_or] at h
    rw [put, if_neg (Ne.symm h.1), ih h.2]
    rfl

theorem Member.foldl_put_of_nodup {xs ms : List Member} (h : ((ms ++ xs).map Member.name).Nodup) :
    xs.foldl (fun ms m => m.put ms) ms = ms ++ xs := by
  induction xs generalizing ms with
  | nil => rw [List.foldl_nil, List.append_nil]
  | cons x xs ih =>
    have hx : x.name ∉ ms.map Member.name := by
      rw [List.map_append] at h
      exact fun hmem => (List.nodup_append.mp h).2.2 _ hmem _ List.mem_cons_self rfl
    rw [List.foldl_cons, put_of_not_mem hx, ih (by rwa [List.append_assoc]), List.append_assoc]
    rfl

theorem Fragment.name_contractAccessor (f : Field) : (Fragment.contractAccessor f).name = f.name := by
  rw [Fragment.contractAccessor]
  split
  · next h => exact h.symm
  · rfl

theorem find?_of_nodup {fs : List Field} (hn : (fs.map (·.name)).Nodup) {f : Field} (hf : f ∈ fs) :
    fs.find? (·.name = f.name) = some f := by
  induction fs with
  | nil => cases hf
  | cons g gs ih =>
    rw [List.map_cons, List.nodup_cons] at hn
    rcases List.mem_cons.mp hf with rfl | hf
    · exact List.find?_cons_of_pos (by simp)
    · have hne : g.name ≠ f.name := fun he => hn.1 (he ▸ List.mem_map_of_mem hf)
      rw [List.find?_cons_of_neg (by simpa using hne), ih hn.2 hf]

/-! ## Roles -/

namespace Outline

variable {d : Declaration} {c : Descriptor} {roles : List Applied} {fs : List Fragment} {p : ClassPlan} {r : Role}

theorem base_mem_bases (h : Outline d c roles fs p) (hr : d.Carries r) : ∃ publishes, r.base publishes ∈ p.bases := by
  obtain ⟨f, hf, a, hs, rfl, -⟩ := h.stem_of_carries hr
  refine ⟨a.directive.events?.isSome, ?_⟩
  rw [h.plan]
  exact List.mem_eraseDups.mpr (hs.furnishes.base ▸ List.mem_map_of_mem hf)

/-- The directives of records are on records, and those of sums on sums. -/
theorem kind_of_carries (h : Outline d c roles fs p) (hown : d.HoldsOwnParts) (hr : d.Carries r) :
    (r = .entity ∨ r = .valueObject ∨ r = .domainEvent → d.kind = .record) ∧ (r = .domainEvents → d.kind = .sum) := by
  have hkind := (h.layout_eq hown).1
  rw [h.plan] at hkind
  have hfault := h.fault?_of_carries hr
  refine ⟨fun hrecord => ?_, ?_⟩
  · have hc := Role.isRecord_of_fault? hfault hrecord
    rw [Descriptor.isRecord] at hc
    cases hshape : c.shape with
    | record fields => simpa [ClassPlan.layOut, hshape, Layout.kind] using hkind.symm
    | sum variants =>
      rw [hshape] at hc
      cases hc
  · rintro rfl
    have hc := Role.isSum_of_fault? hfault
    rw [Descriptor.isRecord] at hc
    cases hshape : c.shape with
    | record fields =>
      rw [hshape] at hc
      cases hc
    | sum variants => simpa [ClassPlan.layOut, hshape, Layout.kind] using hkind.symm

theorem mem_supplied_of_mem (h : Outline d c roles fs p) {f : Fragment} (hf : f ∈ fs) {x : Member} (hx : x ∈ f.members) :
    x ∈ p.supplied := by
  rw [h.plan]
  exact List.mem_map.mpr ⟨⟨x, f.directive⟩, List.mem_flatMap.mpr ⟨f, hf, List.mem_map_of_mem hx⟩, rfl⟩

theorem mem_of_lookUp {a : Applied} {n : String} {requirement : Requirement} {f : Field} (hn : (d.fields.map (·.name)).Nodup)
    (hfields : a.descriptor.fields = d.fields) (h : Fragment.lookUp a.descriptor n requirement = .ok f) :
    f ∈ d.fields ∧ f.name = n ∧ ∀ g ∈ d.fields, g.name = n → g = f := by
  rw [Fragment.lookUp, Descriptor.field?, hfields] at h
  split at h
  · next g hg =>
    cases h
    refine ⟨List.mem_of_find?_eq_some hg, by simpa using List.find?_some hg, fun k hk hname => ?_⟩
    have hfound := find?_of_nodup hn hk
    rw [hname, hg] at hfound
    exact (Option.some.inj hfound).symm
  · cases h

theorem nodup_names_entity {fields : List Field} {id version : Field} {owner : String} (hn : (fields.map (·.name)).Nodup)
    (hfree : ∀ f ∈ fields, f.name ∉ ["__eq__", "__hash__"]) (hid : id.name = "id") (hversion : version.name = "version") :
    ((([Fragment.contractAccessor id, Fragment.contractAccessor version, .equality owner "id", .hash "id"] : List Member) ++
      (fields.filter fun f => f.name ≠ "id" ∧ f.name ≠ "version").map Fragment.contractAccessor).map Member.name).Nodup := by
  let others := fields.filter fun f => f.name ≠ "id" ∧ f.name ≠ "version"
  have hothers : (others.map (·.name)).Nodup := (List.filter_sublist.map _).nodup hn
  have hkeys : (([Fragment.contractAccessor id, Fragment.contractAccessor version, .equality owner "id", .hash "id"] :
      List Member) ++ others.map Fragment.contractAccessor).map Member.name =
        ["id", "version", "__eq__", "__hash__"] ++ others.map (·.name) := by
    simp only [List.map_append, List.map_cons, List.map_nil, List.map_map, Fragment.name_contractAccessor, hid, hversion]
    congr 1
    exact List.map_congr_left fun f _ => Fragment.name_contractAccessor f
  rw [hkeys]
  refine List.Nodup.append (by decide) hothers fun n hmem hother => ?_
  obtain ⟨f, hf, rfl⟩ := List.mem_map.mp hother
  obtain ⟨hf, hcond⟩ := List.mem_filter.mp hf
  have hspecial := hfree f hf
  -- the filter leaves out two of the names in front, and no field has the other two
  simp only [List.mem_cons, List.not_mem_nil, or_false, not_or] at hmem hspecial
  simp only [decide_eq_true_eq] at hcond
  tauto

theorem supplied_of_entity (h : Outline d c roles fs p) (hown : d.HoldsOwnParts) (hn : (d.fields.map (·.name)).Nodup)
    (hfree : ∀ f ∈ d.fields, f.name ∉ ["__eq__", "__hash__"]) (hr : d.Carries .entity) :
    (∀ f ∈ d.fields, Fragment.contractAccessor f ∈ p.supplied) ∧ .equality d.name "id" ∈ p.supplied ∧
      .hash "id" ∈ p.supplied := by
  obtain ⟨g, hg, a, hs, ha, hac⟩ := h.stem_of_carries hr
  have hfields : a.descriptor.fields = d.fields := hac ▸ (h.layout_eq hown).2.2.2
  have hname : a.descriptor.name = d.name := hac ▸ h.name_eq
  have hgives := hs.gives
  rw [Applied.fragment, ha] at hgives
  simp only [Fragment.ofEntity, bind_eq_ok_iff, hfields, hname] at hgives
  obtain ⟨id, hid, version, hversion, hgives⟩ := hgives
  obtain ⟨hidMem, hidName, hidOnly⟩ := mem_of_lookUp hn hfields hid
  obtain ⟨hversionMem, hversionName, hversionOnly⟩ := mem_of_lookUp hn hfields hversion
  -- its members come with different names, so that none is put in the place of another
  let others := d.fields.filter fun f => f.name ≠ "id" ∧ f.name ≠ "version"
  let first : List Member := [Fragment.contractAccessor id, Fragment.contractAccessor version, .equality d.name "id", .hash "id"]
  have hmembers : g.members = first ++ others.map Fragment.contractAccessor := by
    cases hgives
    exact Member.foldl_put_of_nodup (nodup_names_entity hn hfree hidName hversionName)
  have hmem : ∀ x ∈ first ++ others.map Fragment.contractAccessor, x ∈ p.supplied :=
    fun x hx => h.mem_supplied_of_mem hg (hmembers ▸ hx)
  refine ⟨fun f hf => hmem _ ?_, hmem _ (by simp [first]), hmem _ (by simp [first])⟩
  by_cases hid : f.name = "id"
  · rw [hidOnly f hf hid]
    simp [first]
  · by_cases hversion : f.name = "version"
    · rw [hversionOnly f hf hversion]
      simp [first]
    · exact List.mem_append_right _ (List.mem_map_of_mem (List.mem_filter.mpr ⟨hf, by simp [hid, hversion]⟩))

theorem supplied_of_event (h : Outline d c roles fs p) (hown : d.HoldsOwnParts) (hn : (d.fields.map (·.name)).Nodup)
    (hr : d.Carries .domainEvent) : ∀ n ∈ ["occurred", "id", "aggregate_id", "version"],
      ∃ f ∈ d.fields, f.name = n ∧ Fragment.contractAccessor f ∈ p.supplied := by
  obtain ⟨g, hg, a, hs, ha, hac⟩ := h.stem_of_carries hr
  have hfields : a.descriptor.fields = d.fields := hac ▸ (h.layout_eq hown).2.2.2
  have hgives := hs.gives
  rw [Applied.fragment, ha] at hgives
  simp only [Fragment.ofDomainEvent, bind_eq_ok_iff] at hgives
  obtain ⟨occurred, hoccurred, id, hid, aggregate, haggregate, version, hversion, hgives⟩ := hgives
  have hmem : ∀ f ∈ [occurred, id, aggregate, version], Fragment.contractAccessor f ∈ p.supplied := by
    intro f hf
    refine h.mem_supplied_of_mem hg ?_
    cases hgives
    exact List.mem_map_of_mem hf
  have hone : ∀ {n requirement f}, Fragment.lookUp a.descriptor n requirement = .ok f → f ∈ [occurred, id, aggregate, version] →
      ∃ f ∈ d.fields, f.name = n ∧ Fragment.contractAccessor f ∈ p.supplied := by
    intro n requirement f hf hmemf
    obtain ⟨hfmem, hfname, -⟩ := mem_of_lookUp hn hfields hf
    exact ⟨f, hfmem, hfname, hmem f hmemf⟩
  intro n hn
  simp only [List.mem_cons, List.not_mem_nil, or_false] at hn
  rcases hn with rfl | rfl | rfl | rfl
  · exact hone hoccurred (by simp)
  · exact hone hid (by simp)
  · exact hone haggregate (by simp)
  · exact hone hversion (by simp)

/-- Only sums of events ask anything of their payloads. -/
theorem payload_eq (h : Outline d c roles fs p) {b : Contract} (hb : fs.findSome? (·.payload) = some b) : b = .domainEvent := by
  obtain ⟨f, hf, hfb⟩ := List.exists_of_findSome?_eq_some hb
  obtain ⟨a, hs, -, -⟩ := h.stem_of_mem hf
  rw [hs.furnishes.payload] at hfb
  split at hfb
  · exact (Option.some.inj hfb).symm
  · cases hfb

theorem layout_of_sum (h : Outline d c roles fs p) (hown : d.HoldsOwnParts) (hk : d.kind = .sum) :
    ∃ payload, p.layout = .sum p.variants payload ∧ ∀ b ∈ payload, b = .domainEvent := by
  have hkind := (h.layout_eq hown).1.trans hk
  rw [h.plan] at hkind ⊢
  cases hshape : c.shape with
  | record fields =>
    simp only [ClassPlan.layOut, hshape] at hkind
    cases hkind
  | sum variants =>
    refine ⟨_, ?_, fun b hb => h.payload_eq hb⟩
    simp only [ClassPlan.variants, ClassPlan.layOut]

theorem supplied_of_events (h : Outline d c roles fs p) (hown : d.HoldsOwnParts) (hr : d.Carries .domainEvents) :
    p.layout = .sum d.variants (some .domainEvent) ∧ ∀ a ∈ Fragment.eventAccessors,
      .dispatch d.name (d.variants.map (·.name)) a.1 a.2 ∈ p.supplied := by
  obtain ⟨g, hg, a, hs, ha, hac⟩ := h.stem_of_carries hr
  have hname : a.descriptor.name = d.name := hac ▸ h.name_eq
  have hgives := hs.gives
  rw [Applied.fragment, ha] at hgives
  have hsum : ∃ variants, c.shape = .sum variants := by
    have hcondition := h.fault?_of_carries hr
    cases hshape : c.shape with
    | sum variants => exact ⟨variants, rfl⟩
    | record fields =>
      rw [Role.fault?] at hcondition
      simp [Role.conditions, Condition.fault?, Descriptor.isRecord, hshape] at hcondition
  obtain ⟨variants, hshape⟩ := hsum
  have hvariants : variants = d.variants := by
    have hlayout := (h.layout_eq hown).2.2.1
    rw [← hlayout, h.plan]
    simp only [ClassPlan.variants, ClassPlan.layOut, hshape]
  have hpayload : fs.findSome? (·.payload) = some .domainEvent := by
    have hsome : (fs.findSome? (·.payload)).isSome := by
      rw [List.findSome?_isSome_iff]
      exact ⟨g, hg, by rw [hs.furnishes.payload, if_pos ha]; rfl⟩
    obtain ⟨b, hb⟩ := Option.isSome_iff_exists.mp hsome
    rw [hb, h.payload_eq hb]
  refine ⟨?_, fun x hx => h.mem_supplied_of_mem hg ?_⟩
  · rw [h.plan, hpayload, ← hvariants]
    simp only [ClassPlan.layOut, hshape]
  · cases hgives
    have hdescriptor : a.descriptor.variants = d.variants := by
      rw [hac, Descriptor.variants, hshape, hvariants]
    simp only [Fragment.ofDomainEvents, hname, hdescriptor]
    exact List.mem_map_of_mem hx

/-- The members of a value object, whose only field is its value. -/
theorem supplied_of_value (h : Outline d c roles fs p) (hown : d.HoldsOwnParts) (hr : d.Carries .valueObject) :
    ∃ f : Field, d.fields = [f] ∧ f.name = "value" ∧ p.layout = .record [f] [] ∧
      ∀ x ∈ [Member.display "value", .equality d.name "value", .hash "value", .clone d.name "value",
        .tryFrom d.name "value" f.type.annotation (ValueError.ofOwner d.name).name], x ∈ p.supplied := by
  obtain ⟨g, hg, a, hs, ha, hac⟩ := h.stem_of_carries hr
  have hname : a.descriptor.name = d.name := hac ▸ h.name_eq
  have hgives := hs.gives
  rw [Applied.fragment, ha] at hgives
  have hcondition := h.fault?_of_carries hr
  simp only [Role.fault?, Role.conditions, List.findSome?_cons, List.findSome?_nil, Condition.fault?] at hcondition
  have hfields := (h.layout_eq hown).2.2.2
  cases hshape : c.shape with
  | sum variants => simp [Descriptor.isRecord, hshape] at hcondition
  | record fields =>
    have hc : c.fields = fields := by rw [Descriptor.fields, hshape]
    rw [hc] at hfields hcondition
    rcases fields with - | ⟨f, - | ⟨f', fields⟩⟩
    · simp [Descriptor.isRecord, hshape] at hcondition
    · have hvalue : f.name = "value" := by
        by_contra hne
        simp [Descriptor.isRecord, hshape, Condition.valueField, hne] at hcondition
      refine ⟨f, hfields.symm, hvalue, ?_, fun x hx => h.mem_supplied_of_mem hg ?_⟩
      · have hreserved : f.name ∈ fs.flatMap (·.reserved) := by
          rw [hvalue]
          exact h.mem_reserved.mpr ⟨.valueObject, hr, by decide⟩
        rw [h.plan]
        simp only [ClassPlan.layOut, hshape]
        rw [List.filter_cons_of_neg, List.filter_nil]
        simp only [decide_eq_true_eq, not_and, not_not]
        exact fun _ => List.mem_append_right _ hreserved
      · simp only [Fragment.ofValueObject, hac, hc] at hgives
        cases hgives
        rw [hac] at hname
        simpa [hvalue, hname] using hx
    · simp [Descriptor.isRecord, hshape] at hcondition

end Outline

end DomainModel
