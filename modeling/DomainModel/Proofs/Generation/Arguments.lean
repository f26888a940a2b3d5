import DomainModel.Proofs.Generation.Outline
import DomainModel.Proofs.Generation.Stages
import DomainModel.Naming

/-!
# Which arguments are read

A role looks an argument up by its name, and the first one of that name is what it reads. Nothing keeps a name from being
given again: all that is accepted is read exactly if all that is accepted says the same (`argument?_exact`).
-/

namespace DomainModel

namespace Role
variable {r : Role} {xs : List Argument} {a : Argument} {n : String}

theorem mem_accepted_iff : n ∈ r.accepted ↔ r = entity ∧ n = eventsArgument := by
  cases r <;> simp [accepted]

theorem reads_iff : r.Reads a ↔ r = entity ∧ ∃ s, a = ⟨some eventsArgument, .text s⟩ ∧ Identifier.isIdentifier s = true := by
  obtain ⟨name, value⟩ := a
  simp only [Reads, mem_accepted_iff, Argument.mk.injEq]
  grind

theorem reads_of_accepted (h : r.argumentsFault? xs = none) (ha : a ∈ xs) :
    r = entity ∧ ∃ s, a = ⟨some eventsArgument, .text s⟩ ∧ Identifier.isIdentifier s = true :=
  reads_iff.mp (argumentsFault?_eq_none_iff.mp h a ha)

end Role

namespace Directive
variable {r : Role} {d : Directive}

theorem argument?_of_accepted (h : r.argumentsFault? d.arguments = none) :
    d.argument? Role.eventsArgument = d.arguments.head?.map (·.value) := by
  rw [argument?]
  cases hargs : d.arguments with
  | nil => rfl
  | cons a as =>
    obtain ⟨-, s, rfl, -⟩ := Role.reads_of_accepted h (hargs ▸ List.mem_cons_self)
    rfl

end Directive

/-- Only the fragment of an entity has events, those that its directive names. -/
theorem Fragment.events_of_fragment {a : Applied} {x : Fragment} (h : a.fragment = .ok x) :
    x.events = if a.role = .entity then a.directive.events? else none := by
  rw [Applied.fragment] at h
  cases hr : a.role with
  | entity =>
    rw [hr] at h
    simp only [ofEntity, bind_eq_ok_iff] at h
    obtain ⟨id, -, version, -, hx⟩ := h
    cases hx
    rfl
  | valueObject =>
    rw [hr] at h
    simp only [ofValueObject] at h
    split at h
    · cases h
    · cases h
      rfl
  | domainEvent =>
    rw [hr] at h
    simp only [ofDomainEvent, bind_eq_ok_iff] at h
    obtain ⟨occurred, -, id, -, aggregateId, -, version, -, hx⟩ := h
    cases hx
    rfl
  | domainEvents | command | query =>
    rw [hr] at h
    cases h
    rfl

/-- The arguments that a role accepts name the events of an entity. The first of them is what the role reads and what its
fragment assigns, so that all of them are read exactly if they have one value. -/
theorem Directive.argument?_exact {r : Role} {d : Directive} (h : r.argumentsFault? d.arguments = none) :
    (∀ a ∈ d.arguments, r = .entity ∧ ∃ s, a = ⟨some Role.eventsArgument, .text s⟩ ∧ Identifier.isIdentifier s = true) ∧
    d.argument? Role.eventsArgument = d.arguments.head?.map (·.value) ∧
    (∀ (a : Applied) (x : Fragment), a.role = r → a.directive = d → a.fragment = .ok x →
      x.events = d.arguments.head?.bind fun b => Role.identifier? b.value) ∧
    ((∀ a ∈ d.arguments, ∀ n, a.name = some n → d.argument? n = some a.value) ↔
      ∀ a ∈ d.arguments, ∀ b ∈ d.arguments, a.value = b.value) := by
  have hreads := fun a => Role.reads_of_accepted (a := a) h
  have hfirst := argument?_of_accepted h
  refine ⟨hreads, hfirst, ?_, fun hall a ha b hb => ?_, fun hall a ha n hn => ?_⟩
  · rintro a x rfl rfl hx
    rw [Fragment.events_of_fragment hx, Directive.events?, hfirst, Option.bind_map]
    cases hargs : a.directive.arguments with
    | nil => simp
    | cons b bs =>
      rw [if_pos (hreads b (hargs ▸ List.mem_cons_self)).1]
      rfl
  · obtain ⟨-, s, rfl, -⟩ := hreads a ha
    obtain ⟨-, t, rfl, -⟩ := hreads b hb
    exact Option.some.inj ((hall _ ha _ rfl).symm.trans (hall _ hb _ rfl))
  · obtain ⟨-, s, rfl, -⟩ := hreads a ha
    obtain rfl := Option.some.inj hn
    rw [hfirst]
    cases hargs : d.arguments with
    | nil =>
      rw [hargs] at ha
      cases ha
    | cons b bs => exact congrArg some (hall b (hargs ▸ List.mem_cons_self) _ ha)

/-- Events that are given twice, and alike. -/
theorem Directive.argument?_exact_alike : ∃ (a : Applied) (x : Fragment), a.role.argumentsFault? a.directive.arguments = none ∧
    a.directive.arguments.map (·.value) = [.text "Happened", .text "Happened"] ∧
    (∀ b ∈ a.directive.arguments, ∀ n, b.name = some n → a.directive.argument? n = some b.value) ∧
    a.fragment = .ok x ∧ x.events = some "Happened" := by
  let d : Directive := ⟨"entity", [⟨some "events", .text "Happened"⟩, ⟨some "events", .text "Happened"⟩], none⟩
  let a : Applied := ⟨.entity, d, ⟨"User", [], none,
    .record [⟨"id", ⟨"uuid", []⟩, .hidden, [], none⟩, ⟨"version", ⟨"int8", []⟩, .hidden, [], none⟩]⟩⟩
  have haccepted : Role.entity.argumentsFault? d.arguments = none := by decide +kernel
  obtain ⟨-, -, hevents, hread⟩ := argument?_exact haccepted
  have hx : a.fragment = .ok _ := rfl
  refine ⟨a, _, haccepted, rfl, hread.mpr (by decide), hx, ?_⟩
  rw [hevents a _ rfl rfl hx]
  decide +kernel

/-- A second name of events is accepted, and nothing reads it. -/
theorem Directive.argument?_exact_repeated : ∃ d : Directive, ∃ a ∈ d.arguments, ∃ n, a.name = some n ∧
    parse "@entity(events=A, events=B) record R \x7b id: uuid version: int8 \x7d" none = .ok
      [{ kind := .record, name := "R", directives := [d], location := some ⟨1, 36, none⟩
         fields := [⟨"id", ⟨"uuid", []⟩, .hidden, [], some ⟨1, 40, none⟩⟩,
           ⟨"version", ⟨"int8", []⟩, .hidden, [], some ⟨1, 49, none⟩⟩] }] ∧
    Role.entity.argumentsFault? d.arguments = none ∧ d.argument? n ≠ some a.value := by
  refine ⟨⟨"entity", [⟨some "events", .text "A"⟩, ⟨some "events", .text "B"⟩], some ⟨1, 2, none⟩⟩,
    ⟨some "events", .text "B"⟩, by simp, "events", rfl, ?_, ?_, by decide⟩
  · cbv
  · decide +kernel

end DomainModel
