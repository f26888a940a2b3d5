import DomainModel.Module
import DomainModel.Proofs.Generation.Planned

/-!
# When nothing is generated

`render_verdict`: a file is refused for the first of its declarations that is `Refused`, which fails its
check, has two roles that supply one member, or binds a name on its class that a member has.
-/

namespace DomainModel

/-! ## Roles on the wrong kind -/

theorem Declaration.cases_of_describe {d : Declaration} {c : Descriptor} (h : d.describe = .ok c) :
    (d.kind = .record ∧ c.isRecord = true ∧ c.fields = d.fields) ∨ (d.kind = .sum ∧ c.isRecord = false) := by
  cases hk : d.kind with
  | record =>
    rw [Declaration.describe, hk] at h
    rw [← Except.ok.inj h]
    exact .inl ⟨rfl, rfl, rfl⟩
  | sum =>
    rw [Declaration.describe, hk] at h
    rw [← Except.ok.inj h]
    exact .inr ⟨rfl, rfl⟩
  | synonym =>
    rw [Declaration.describe, hk] at h
    cases h

namespace Fits
variable {d : Declaration} {a : Applied}

theorem kind_eq_record (h : Fits d a) (hr : a.role = .entity ∨ a.role = .valueObject ∨ a.role = .domainEvent) :
    d.kind = .record := by
  have hrecord := Role.isRecord_of_fault? h.conditions hr
  rcases Declaration.cases_of_describe h.describes with ⟨hk, -, -⟩ | ⟨-, hsum⟩
  · exact hk
  · rw [hrecord] at hsum
    cases hsum

theorem fields_eq (h : Fits d a) (hk : d.kind = .record) : a.descriptor.fields = d.fields := by
  rcases Declaration.cases_of_describe h.describes with ⟨-, -, hf⟩ | ⟨hsum, -⟩
  · exact hf
  · rw [hk] at hsum
    cases hsum

end Fits

/-! ## An entity with events -/

namespace Declaration

def Publishes (d : Declaration) : Prop :=
  ∃ x ∈ d.directives, x.name = "entity" ∧ ∃ a ∈ x.arguments, a.name = some "events"

end Declaration

theorem Fits.isSome_events?_iff {d : Declaration} {a : Applied} (h : Fits d a) (hr : a.role = .entity) :
    a.directive.events?.isSome = true ↔ ∃ x ∈ a.directive.arguments, x.name = some "events" := by
  rw [Directive.events?, Directive.argument?]
  cases hf : a.directive.arguments.find? (·.name = some Role.eventsArgument) with
  | none =>
    rw [List.find?_eq_none] at hf
    constructor
    · intro hsome
      cases hsome
    · rintro ⟨x, hx, hn⟩
      exact absurd (decide_eq_true hn) (hf x hx)
  | some x =>
    have hx := List.mem_of_find?_eq_some hf
    have hn : x.name = some "events" := of_decide_eq_true (List.find?_some hf :)
    have hargs := h.arguments
    rw [Role.argumentsFault?, List.findSome?_eq_none_iff] at hargs
    have hfault := hargs x hx
    rw [Role.argumentFault?, hn, hr] at hfault
    have : Role.identifier? x.value ≠ none := by
      intro hnone
      simp [hnone, Role.accepted, Role.eventsArgument] at hfault
    exact ⟨fun _ => ⟨x, hx, hn⟩, fun _ => by simpa [Option.isSome_iff_ne_none] using this⟩

namespace Planned
variable {d : Declaration} {fs : List Fragment}

theorem exists_assigned_iff (h : Planned d fs) {n : String} :
    (∃ f ∈ fs, n ∈ f.assigned) ↔ n = "events" ∧ d.Publishes := by
  constructor
  · rintro ⟨f, hf, hn⟩
    obtain ⟨a, ha, hc⟩ := h.stems f hf
    have hev := hc.events
    rw [Fragment.assigned] at hn
    by_cases hr : a.role = .entity
    · rw [hev, if_pos hr] at hn
      cases he : a.directive.events? with
      | none => rw [he] at hn; cases hn
      | some e =>
        rw [he] at hn
        have hargs := (ha.isSome_events?_iff hr).mp (by rw [he]; rfl)
        refine ⟨List.mem_singleton.mp hn, a.directive, ?_, ?_, hargs⟩
        · rw [← h.directives, ← hc.directive]
          exact List.mem_map_of_mem hf
        · rw [Role.text_of_ofName? ha.role, hr]
          rfl
    · rw [hev, if_neg hr] at hn
      cases hn
  · rintro ⟨rfl, x, hx, hname, hargs⟩
    obtain ⟨f, hf, a, ha, hc, rfl⟩ := h.exists_of_mem hx
    have hr : a.role = .entity := role_of_name (r := .entity) ha hname
    have hsome := (ha.isSome_events?_iff hr).mpr hargs
    obtain ⟨e, he⟩ := Option.isSome_iff_exists.mp hsome
    refine ⟨f, hf, ?_⟩
    rw [Fragment.assigned, hc.events, if_pos hr, he]
    exact List.mem_singleton.mpr rfl

theorem clash_iff_of_record (h : Planned d fs) (hk : d.kind = .record) :
    ClassPlan.Clashes (.record d.fields) fs ↔ d.Publishes ∧ ∃ f ∈ d.fields, f.name = "events" := by
  have hassigned : ∀ n, (∃ p ∈ ClassPlan.assignedNames (.record d.fields) fs, p.1 = n) ↔
      n = "events" ∧ d.Publishes := by
    intro n
    rw [← h.exists_assigned_iff, ClassPlan.assignedNames, List.append_nil]
    constructor
    · rintro ⟨p, hp, rfl⟩
      obtain ⟨f, hf, hp⟩ := List.mem_flatMap.mp hp
      obtain ⟨n, hn, rfl⟩ := List.mem_map.mp hp
      exact ⟨f, hf, hn⟩
    · rintro ⟨f, hf, hn⟩
      exact ⟨(n, some f.directive), List.mem_flatMap.mpr ⟨f, hf, List.mem_map_of_mem hn⟩, rfl⟩
  constructor
  · rintro ⟨p, hp, htaken⟩
    obtain ⟨hn, hpub⟩ := (hassigned p.1).mp ⟨p, hp, rfl⟩
    refine ⟨hpub, ?_⟩
    rw [hn, ClassPlan.takenNames, List.mem_append, ClassPlan.mem_suppliedBy] at htaken
    rcases htaken with ⟨f, hf, hmem⟩ | hmem
    · obtain ⟨a, ha, hc⟩ := h.stems f hf
      rw [hc.supplies] at hmem
      have hfield := Role.mem_fields_of_supplies hmem
      rw [ha.fields_eq hk] at hfield
      exact List.mem_map.mp hfield
    · obtain ⟨f, hf, he⟩ := List.mem_map.mp hmem
      exact ⟨f, (List.mem_filter.mp hf).1, he⟩
  · rintro ⟨hpub, f, hf, he⟩
    obtain ⟨p, hp, hn⟩ := (hassigned "events").mpr ⟨rfl, hpub⟩
    refine ⟨p, hp, ?_⟩
    rw [hn, ClassPlan.takenNames, List.mem_append, ClassPlan.mem_suppliedBy]
    obtain ⟨x, hx, hname, -⟩ := hpub
    obtain ⟨g, hg, a, ha, hc, rfl⟩ := h.exists_of_mem hx
    refine .inl ⟨g, hg, ?_⟩
    rw [hc.supplies, role_of_name (r := .entity) ha hname, Role.Supplies, ha.fields_eq hk]
    exact .inr (he ▸ List.mem_map_of_mem hf)

theorem mem_suppliedBy_iff_of_sum (h : Planned d fs) (hk : d.kind = .sum) {n : String} :
    n ∈ (ClassPlan.suppliedBy fs).map ClassPlan.Supplied.name ↔
      d.Carries .domainEvents ∧ n ∈ ["occurred", "id", "aggregate_id", "version"] := by
  rw [ClassPlan.mem_suppliedBy]
  constructor
  · rintro ⟨f, hf, hmem⟩
    obtain ⟨a, ha, hc⟩ := h.stems f hf
    have hcarries := h.carries_of_stems hf ha hc
    have hrecord : ¬(a.role = .entity ∨ a.role = .valueObject ∨ a.role = .domainEvent) := by
      intro hr
      have := ha.kind_eq_record hr
      rw [hk] at this
      cases this
    rw [hc.supplies] at hmem
    cases hr : a.role with
    | entity => exact (hrecord (.inl hr)).elim
    | valueObject => exact (hrecord (.inr (.inl hr))).elim
    | domainEvent => exact (hrecord (.inr (.inr hr))).elim
    | domainEvents =>
      rw [hr] at hcarries hmem
      exact ⟨hcarries, hmem⟩
    | command =>
      rw [hr] at hmem
      cases hmem
    | query =>
      rw [hr] at hmem
      cases hmem
  · rintro ⟨hcarries, hn⟩
    obtain ⟨f, hf, a, ha, hc, hr⟩ := h.exists_of_carries hcarries
    refine ⟨f, hf, ?_⟩
    rw [hc.supplies, hr]
    exact hn

theorem kind_eq_record_of_publishes (h : Planned d fs) (hpub : d.Publishes) : d.kind = .record := by
  obtain ⟨x, hx, hname, -⟩ := hpub
  obtain ⟨f, hf, a, ha, hc, rfl⟩ := h.exists_of_mem hx
  exact ha.kind_eq_record (.inl (role_of_name (r := .entity) ha hname))

theorem clash_iff_of_sum (h : Planned d fs) (hk : d.kind = .sum) :
    ClassPlan.Clashes (.sum d.variants) fs ↔ ∃ v ∈ d.variants, v.name ∈ ["payload", "variants"] ∨
        (d.Carries .domainEvents ∧ v.name ∈ ["occurred", "id", "aggregate_id", "version"]) := by
  have hassigned : ∀ n, (∃ p ∈ ClassPlan.assignedNames (.sum d.variants) fs, p.1 = n) ↔
      ∃ v ∈ d.variants, v.name = n := by
    intro n
    constructor
    · rintro ⟨p, hp, rfl⟩
      rcases List.mem_append.mp hp with hp | hp
      · obtain ⟨f, hf, hp⟩ := List.mem_flatMap.mp hp
        obtain ⟨n, hn, rfl⟩ := List.mem_map.mp hp
        have := h.kind_eq_record_of_publishes (h.exists_assigned_iff.mp ⟨f, hf, hn⟩).2
        rw [hk] at this
        cases this
      · obtain ⟨v, hv, rfl⟩ := List.mem_map.mp hp
        exact ⟨v, hv, rfl⟩
    · rintro ⟨v, hv, rfl⟩
      exact ⟨(v.name, none), List.mem_append.mpr (.inr (List.mem_map_of_mem hv)), rfl⟩
  have htaken : ∀ n, n ∈ ClassPlan.takenNames (.sum d.variants) (ClassPlan.suppliedBy fs) ↔
      n ∈ ["payload", "variants"] ∨
        (d.Carries .domainEvents ∧ n ∈ ["occurred", "id", "aggregate_id", "version"]) := by
    intro n
    rw [ClassPlan.takenNames, List.mem_append, h.mem_suppliedBy_iff_of_sum hk, or_comm]
    rfl
  constructor
  · rintro ⟨p, hp, hmem⟩
    obtain ⟨v, hv, hn⟩ := (hassigned p.1).mp ⟨p, hp, rfl⟩
    refine ⟨v, hv, ?_⟩
    rw [hn]
    exact (htaken p.1).mp hmem
  · rintro ⟨v, hv, hmem⟩
    obtain ⟨p, hp, hn⟩ := (hassigned v.name).mpr ⟨v, hv, rfl⟩
    refine ⟨p, hp, ?_⟩
    rw [hn]
    exact (htaken v.name).mpr hmem

end Planned

/-! ## Refused declarations -/

/-- Nothing is generated from the declaration. -/
inductive Refused (d : Declaration) : Prop
  | unchecked {e : Diagnostic} (h : d.check = .error e)
  | twofold (h : d.check.isOk = true) (he : d.Carries .entity) (hv : d.Carries .domainEvent)
  /-- A variant has the name of a member of every sum. -/
  | variant {v : Variant} (hk : d.kind = .sum) (hv : v ∈ d.variants) (hn : v.name ∈ ["payload", "variants"])
  /-- A variant has the name of an accessor of events. -/
  | accessor {v : Variant} (hk : d.kind = .sum) (hc : d.Carries .domainEvents) (hv : v ∈ d.variants)
      (hn : v.name ∈ ["occurred", "id", "aggregate_id", "version"])
  /-- A field of an entity stands where the events of the entity are bound. -/
  | events {f : Field} (h : d.Publishes) (hf : f ∈ d.fields) (hn : f.name = "events")

namespace Module
variable {d : Declaration} {e : Diagnostic}

theorem part_eq_error_of_check (h : d.check = .error e) : part d = .error e := by
  rw [part]
  cases hk : d.kind with
  | synonym =>
    simp only [h]
    rfl
  | record =>
    simp only [ClassPlan.ofDeclaration, Declaration.describe, hk, ClassPlan.fragments, h]
    rfl
  | sum =>
    simp only [ClassPlan.ofDeclaration, Declaration.describe, hk, ClassPlan.fragments, h]
    rfl

theorem part_eq_of_record (hk : d.kind = .record) : part d = (ClassPlan.ofDeclaration d).map .cls := by
  rw [part, hk]
  cases ClassPlan.ofDeclaration d <;> rfl

theorem part_eq_of_sum (hk : d.kind = .sum) : part d = (ClassPlan.ofDeclaration d).map .cls := by
  rw [part, hk]
  cases ClassPlan.ofDeclaration d <;> rfl

theorem refused_iff {fs : List Fragment} {c : Descriptor} (hok : d.check.isOk = true) (hd : d.describe = .ok c)
    (h : Planned d fs) :
    Refused d ↔ (d.Carries .entity ∧ d.Carries .domainEvent) ∨ ClassPlan.Clashes c.shape fs := by
  -- the check passes, and the kind rules out the grounds of the other kind
  have hun : ∀ e, d.check ≠ .error e := by
    intro e he
    rw [he] at hok
    cases hok
  cases hk : d.kind with
  | synonym =>
    rw [Declaration.describe, hk] at hd
    cases hd
  | record =>
    rw [Declaration.describe, hk] at hd
    rw [← Except.ok.inj hd, h.clash_iff_of_record hk]
    constructor
    · rintro (he | ⟨-, he, hv⟩ | ⟨hs, -, -⟩ | ⟨hs, -, -, -⟩ | ⟨hp, hf, hn⟩)
      · exact (hun _ he).elim
      · exact .inl ⟨he, hv⟩
      · rw [hk] at hs
        cases hs
      · rw [hk] at hs
        cases hs
      · exact .inr ⟨hp, _, hf, hn⟩
    · rintro (⟨he, hv⟩ | ⟨hp, f, hf, hn⟩)
      · exact .twofold hok he hv
      · exact .events hp hf hn
  | sum =>
    rw [Declaration.describe, hk] at hd
    rw [← Except.ok.inj hd, h.clash_iff_of_sum hk]
    constructor
    · rintro (he | ⟨-, he, hv⟩ | ⟨-, hv, hn⟩ | ⟨-, hc, hv, hn⟩ | ⟨hp, -, -⟩)
      · exact (hun _ he).elim
      · exact .inl ⟨he, hv⟩
      · exact .inr ⟨_, hv, .inl hn⟩
      · exact .inr ⟨_, hv, .inr ⟨hc, hn⟩⟩
      · have hrecord := h.kind_eq_record_of_publishes hp
        rw [hk] at hrecord
        cases hrecord
    · rintro (⟨he, hv⟩ | ⟨v, hv, hn | ⟨hc, hn⟩⟩)
      · exact .twofold hok he hv
      · exact .variant hk hv hn
      · exact .accessor hk hc hv hn

theorem directives_eq_nil_of_synonym (hk : d.kind = .synonym) {roles : List Applied} (h : d.check = .ok roles) :
    d.directives = [] := by
  obtain ⟨hdirs, hfits, -⟩ := Declaration.check_eq_ok_iff.mp h
  rw [← hdirs, List.map_eq_nil_iff, List.eq_nil_iff_forall_not_mem]
  intro a ha
  have hd := (hfits a ha).describes
  rw [Declaration.describe, hk] at hd
  cases hd

/-- A declaration becomes part of a module or is refused, and then the error is its own. -/
theorem part_spec (d : Declaration) :
    (¬Refused d ∧ ∃ p, part d = .ok p) ∨ (Refused d ∧ ∃ o v, part d = .error (.report d o v)) := by
  cases hc : d.check with
  | error e =>
    obtain ⟨x, -, v, rfl⟩ := Declaration.report_of_check hc
    exact .inr ⟨.unchecked hc, some x, v, part_eq_error_of_check hc⟩
  | ok roles =>
    have hok : d.check.isOk = true := by
      rw [hc]
      rfl
    obtain ⟨fs, hfs, hplanned⟩ := exists_planned hc
    have hclass : ∀ c, d.describe = .ok c → part d = (ClassPlan.ofDeclaration d).map .cls →
        (¬Refused d ∧ ∃ p, part d = .ok p) ∨ (Refused d ∧ ∃ o v, part d = .error (.report d o v)) := by
      intro c hd hpart
      rw [refused_iff hok hd hplanned, hpart]
      rcases ClassPlan.ofDeclaration_spec hd hfs hplanned with ⟨hno, hfree, p, hp⟩ | ⟨hbad, o, v, he⟩
      · exact .inl ⟨not_or.mpr ⟨hno, hfree⟩, _, by rw [hp]; rfl⟩
      · exact .inr ⟨hbad, o, v, by rw [he]; rfl⟩
    cases hk : d.kind with
    | record => exact hclass _ (by rw [Declaration.describe, hk]) (part_eq_of_record hk)
    | sum => exact hclass _ (by rw [Declaration.describe, hk]) (part_eq_of_sum hk)
    | synonym =>
      -- nothing that a clash needs is there without a directive
      have hnone := directives_eq_nil_of_synonym hk hc
      refine .inl ⟨?_, _, by simp only [part, hk, hc]; rfl⟩
      rintro (he | ⟨-, he, -⟩ | ⟨hs, -, -⟩ | ⟨hs, -, -, -⟩ | ⟨⟨x, hx, -⟩, -, -⟩)
      · rw [hc] at he
        cases he
      · rw [Declaration.Carries, hnone] at he
        cases he
      · rw [hk] at hs
        cases hs
      · rw [hk] at hs
        cases hs
      · rw [hnone] at hx
        cases hx

theorem exists_part_iff {d : Declaration} : (∃ p, part d = .ok p) ↔ ¬Refused d := by
  rcases part_spec d with ⟨hno, hp⟩ | ⟨hr, o, v, he⟩
  · exact ⟨fun _ => hno, fun _ => hp⟩
  · refine ⟨?_, fun hno => (hno hr).elim⟩
    rintro ⟨p, hp⟩
    rw [he] at hp
    cases hp

theorem refused_of_part {d : Declaration} {e : Diagnostic} (h : part d = .error e) :
    Refused d ∧ ∃ o v, e = .report d o v := by
  rcases part_spec d with ⟨-, p, hp⟩ | ⟨hr, o, v, he⟩
  · rw [h] at hp
    cases hp
  · exact ⟨hr, o, v, Except.error.inj (h.symm.trans he)⟩

end Module

/-! ## Files -/

section
variable {ds before after : List Declaration} {d : Declaration} {contracts : String} {e : Diagnostic}

theorem render_eq_error_iff : render ds contracts = .error e ↔ ds.mapM Module.part = .error e := by
  rw [render, Module.ofDeclarations]
  cases ds.mapM Module.part <;> simp [bind, Except.bind, pure, Except.pure, Except.map]

theorem render_singleton (h : Module.part d = .error e) : render [d] contracts = .error e := by
  rw [render_eq_error_iff, List.mapM_cons, h]
  rfl

theorem checkAll_append : checkAll (before ++ after) = checkAll before ++ checkAll after :=
  List.filterMap_append

theorem checkAll_cons (h : d.check = .error e) : checkAll (d :: ds) = e :: checkAll ds := by
  rw [checkAll, List.filterMap_cons]
  simp only [h]
  rfl

theorem checkAll_cons_of_ok {roles : List Applied} (h : d.check = .ok roles) :
    checkAll (d :: ds) = checkAll ds := by
  rw [checkAll, List.filterMap_cons]
  simp only [h]
  rfl

theorem checkAll_eq_nil (h : ∀ x ∈ before, ¬Refused x) : checkAll before = [] := by
  induction before with
  | nil => rfl
  | cons x before ih =>
    cases hc : x.check with
    | error e => exact (h x (by simp) (.unchecked hc)).elim
    | ok roles =>
      rw [checkAll_cons_of_ok hc]
      exact ih fun y hy => h y (by simp [hy])

theorem checkAll_forall₂ : List.Forall₂ (fun d e => d.check = .error e ∧ e.location = d.location ∧
    ∃ v x, e.cause = .rejected v d.name x) (ds.filter fun d => !d.check.isOk) (checkAll ds) := by
  induction ds with
  | nil => exact .nil
  | cons d ds ih =>
    cases hc : d.check with
    | ok roles =>
      rw [checkAll_cons_of_ok hc, List.filter_cons_of_neg (by rw [hc]; exact Bool.false_ne_true)]
      exact ih
    | error e =>
      obtain ⟨x, -, v, rfl⟩ := Declaration.report_of_check hc
      rw [checkAll_cons hc, List.filter_cons_of_pos (by rw [hc]; rfl)]
      exact .cons ⟨hc, rfl, v, some x.name, rfl⟩ ih

end

/-- Nothing is rendered if and only if a declaration is refused. The error is that of the first one, and
the first of all errors of checks if its check fails. -/
theorem render_verdict (ds : List Declaration) (contracts : String) :
    ((∃ e, render ds contracts = .error e) ↔ ∃ d ∈ ds, Refused d) ∧
    (∀ e, render ds contracts = .error e → ∃ before d after, ds = before ++ d :: after ∧
      (∀ x ∈ before, ¬Refused x) ∧ Refused d ∧ render [d] contracts = .error e ∧ (∃ o v, e = .report d o v) ∧
      (d.check.isOk = false → d.check = .error e ∧ checkAll ds = e :: checkAll after)) ∧
    List.Forall₂ (fun d e => d.check = .error e ∧ e.location = d.location ∧ ∃ v x, e.cause = .rejected v d.name x)
      (ds.filter fun d => !d.check.isOk) (checkAll ds) := by
  refine ⟨⟨?_, ?_⟩, ?_, checkAll_forall₂⟩
  · rintro ⟨e, he⟩
    obtain ⟨before, d, after, rfl, -, hd⟩ := exists_of_mapM_eq_error (render_eq_error_iff.mp he)
    exact ⟨d, by simp, (Module.refused_of_part hd).1⟩
  · rintro ⟨d, hd, hr⟩
    cases hm : ds.mapM Module.part with
    | error e => exact ⟨e, render_eq_error_iff.mpr hm⟩
    | ok parts => exact (Module.exists_part_iff.mp (exists_of_mapM_eq_ok hm d hd) hr).elim
  · intro e he
    obtain ⟨before, d, after, rfl, hbefore, hd⟩ := exists_of_mapM_eq_error (render_eq_error_iff.mp he)
    have hfree : ∀ x ∈ before, ¬Refused x := fun x hx => Module.exists_part_iff.mp (hbefore x hx)
    obtain ⟨hr, hreport⟩ := Module.refused_of_part hd
    refine ⟨before, d, after, rfl, hfree, hr, render_singleton hd, hreport, fun hfail => ?_⟩
    cases hc : d.check with
    | ok roles =>
      rw [hc] at hfail
      cases hfail
    | error e' =>
      have he' : e' = e := Except.error.inj ((Module.part_eq_error_of_check hc).symm.trans hd)
      rw [checkAll_append, checkAll_eq_nil hfree, checkAll_cons hc, he']
      exact ⟨rfl, rfl⟩

end DomainModel
