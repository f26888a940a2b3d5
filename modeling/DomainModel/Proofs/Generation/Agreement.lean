import Mathlib
import DomainModel.Naming
import DomainModel.Proofs.Generation.Verdict

/-!
# Checking and generating

A check looks at each directive by itself, while a class is made of all that its directives supply. What
comes in between is `Declaration.Collides`: `render_checked` says that a file without an error of a check
becomes a module exactly if none of its declarations collides.
-/

namespace DomainModel

/-- The parts of a class get into each other's way, be they supplied by a role or named by the declaration. -/
inductive Declaration.Collides (d : Declaration) : Prop
  /-- Both roles supply `id` and `version`. -/
  | roles (he : d.Carries .entity) (hv : d.Carries .domainEvent)
  /-- A variant is bound where every sum has a member. -/
  | variant {v : Variant} (hk : d.kind = .sum) (hv : v ∈ d.variants) (hn : v.name ∈ ["payload", "variants"])
  /-- A variant is bound where a sum of events has an accessor. -/
  | accessor {v : Variant} (hk : d.kind = .sum) (hc : d.Carries .domainEvents) (hv : v ∈ d.variants)
      (hn : v.name ∈ ["occurred", "id", "aggregate_id", "version"])
  /-- The events of an entity are bound where it has a field. -/
  | events {f : Field} (h : d.Publishes) (hf : f ∈ d.fields) (hn : f.name = "events")

section
variable {ds : List Declaration} {d : Declaration}

theorem checkAll_eq_nil_iff : checkAll ds = [] ↔ ∀ d ∈ ds, d.check.isOk = true := by
  rw [checkAll, List.filterMap_eq_nil_iff]
  refine forall₂_congr fun d _ => ?_
  cases d.check <;> simp [Except.isOk, Except.toBool]

theorem refused_iff_collides (h : d.check.isOk = true) : Refused d ↔ d.Collides := by
  constructor
  · rintro (he | ⟨-, he, hv⟩ | ⟨hk, hv, hn⟩ | ⟨hk, hc, hv, hn⟩ | ⟨hp, hf, hn⟩)
    · rw [he] at h
      cases h
    · exact .roles he hv
    · exact .variant hk hv hn
    · exact .accessor hk hc hv hn
    · exact .events hp hf hn
  · rintro (⟨he, hv⟩ | ⟨hk, hv, hn⟩ | ⟨hk, hc, hv, hn⟩ | ⟨hp, hf, hn⟩)
    · exact .twofold h he hv
    · exact .variant hk hv hn
    · exact .accessor hk hc hv hn
    · exact .events hp hf hn

theorem exists_render_iff {contracts : String} : (∃ s, render ds contracts = .ok s) ↔ ∀ d ∈ ds, ¬Refused d := by
  constructor
  · rintro ⟨s, hs⟩ d hd
    cases hm : ds.mapM Module.part with
    | ok parts => exact Module.exists_part_iff.mp (exists_of_mapM_eq_ok hm d hd)
    | error e =>
      rw [render_eq_error_iff.mpr hm] at hs
      cases hs
  · intro h
    cases hr : render ds contracts with
    | ok s => exact ⟨s, rfl⟩
    | error e =>
      obtain ⟨before, d, after, rfl, -, hd⟩ := exists_of_mapM_eq_error (render_eq_error_iff.mp hr)
      exact (h d (by simp) (Module.refused_of_part hd).1).elim

end

/-- A file without an error of a check becomes a module if and only if none of its declarations collides. -/
theorem render_checked {ds : List Declaration} (contracts : String) (h : checkAll ds = []) :
    (∃ s, render ds contracts = .ok s) ↔ ∀ d ∈ ds, ¬d.Collides := by
  rw [exists_render_iff]
  refine forall₂_congr fun d hd => ?_
  rw [refused_iff_collides (checkAll_eq_nil_iff.mp h d hd)]

theorem render_checked_events :
    checkAll [{ kind := .sum, name := "S", directives := [⟨"domain_events", [], none⟩]
                variants := [⟨"Made", ⟨"T", []⟩, [], none⟩] }] = [] ∧
      ∃ s, render [{ kind := .sum, name := "S", directives := [⟨"domain_events", [], none⟩]
                     variants := [⟨"Made", ⟨"T", []⟩, [], none⟩] }] defaultContracts = .ok s := by
  have h : checkAll [{ kind := .sum, name := "S", directives := [⟨"domain_events", [], none⟩]
                       variants := [⟨"Made", ⟨"T", []⟩, [], none⟩] }] = [] := by cbv
  refine ⟨h, (render_checked defaultContracts h).mpr fun d hd => ?_⟩
  obtain rfl := List.mem_singleton.mp hd
  rintro (⟨he, -⟩ | ⟨-, hv, hn⟩ | ⟨-, -, hv, hn⟩ | ⟨-, hf, -⟩)
  · exact absurd (show "entity" ∈ ["domain_events"] from he) (by decide)
  · obtain rfl := List.mem_singleton.mp hv
    exact absurd hn (by decide)
  · obtain rfl := List.mem_singleton.mp hv
    exact absurd hn (by decide)
  · cases hf

/-- A variant that stands where every sum has a member passes the check. -/
theorem render_checked_payload :
    ∃ ds e, parse "sum S \x7b payload(int8) \x7d" none = .ok ds ∧ checkAll ds = [] ∧
      render ds defaultContracts = .error e := by
  refine ⟨[{ kind := .sum, name := "S", variants := [⟨"payload", ⟨"int8", []⟩, [], some ⟨1, 9, none⟩⟩]
             location := some ⟨1, 5, none⟩ }],
    .report { kind := .sum, name := "S", location := some ⟨1, 5, none⟩ } none (.collidingMember "payload"), ?_, ?_, ?_⟩
  · cbv
  · cbv
  · cbv

end DomainModel
