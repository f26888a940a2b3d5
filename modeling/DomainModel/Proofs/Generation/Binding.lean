import DomainModel.Live.Loading
import DomainModel.Proofs.Generation.Outline
import DomainModel.Proofs.Generation.Verdict
import DomainModel.Proofs.Source.Content

/-!
# Names that a class binds

A generated class binds the places of its stored fields, its functions, the accessors of fields and, after its
body, its variants and events. `bindings_nodup_iff` says when no two of them bind one name.
-/

namespace DomainModel

theorem isOk_iff {α ε : Type} {x : Except ε α} : x.isOk = true ↔ ∃ a, x = .ok a := by
  cases x <;> simp [Except.isOk, Except.toBool]

theorem toOption_eq_some_iff {α ε : Type} {x : Except ε α} {a : α} : x.toOption = some a ↔ x = .ok a := by
  cases x <;> simp [Except.toOption]

/-! ## What running a class binds -/

/-- The names that a part of a body binds; a setter is bound together with its accessor. -/
def Live.Loading.Item.names : Live.Loading.Item → List String
  | .constant name _ => [name]
  | .annotations _ | .setter _ => []
  | .method f | .accessor f | .classMethod f => [f.spell f.name]
  | .same _ name _ => [name]

/-- The names under which the instances of a class store what they hold. -/
def Layout.places : Layout → List String
  | .record fields _ => fields.map fun f => slot f.name
  | .sum _ _ => [slot "payload"]

/-- The fields that the layout of a class gives a property. -/
def Layout.assigned : Layout → List String
  | .record _ assignable => assignable.map (·.name)
  | .sum _ _ => []

def Layout.kind : Layout → Kind
  | .record _ _ => .record
  | .sum _ _ => .sum

/-- The names that a planned class binds: its places, those of its body, and those that are bound later. -/
def ClassPlan.bound (p : ClassPlan) : List String :=
  p.layout.places.map (PrivateName.spell p.name)
    ++ (Live.Loading.layoutItems p.name p.layout
        ++ p.supplied.flatMap (Live.Loading.ofMember p.name)).flatMap Live.Loading.Item.names
    ++ p.variants.map (·.name) ++ p.events.map fun _ => Role.eventsArgument

/-! ## What a declaration has bound -/

namespace Role

/-- The members of a role that are no accessors of a field. -/
def functions : Role → List String
  | entity => ["__eq__", "__hash__"]
  | valueObject => ["__str__", "__eq__", "__hash__", "clone", "__copy__", "try_from"]
  | domainEvents => ["occurred", "id", "aggregate_id", "version"]
  | domainEvent | command | query => []

/-- Whether a role gives the field of a name an accessor. -/
def accesses (r : Role) (n : String) : Bool :=
  match r with
  | entity => true
  | domainEvent => n ∈ ["occurred", "id", "aggregate_id", "version"]
  | valueObject | domainEvents | command | query => false

end Role

/-- The functions and constants of every class of a kind. -/
def Kind.functions : Kind → List String
  | .record => ["__slots__", "__init__", "__repr__"]
  | .sum => ["__slots__", "__match_args__", "variants", "__init__", "payload", "__repr__", "__eq__", "__hash__"]
  | .synonym => []

namespace Declaration
variable (d : Declaration)

instance : Decidable d.Publishes :=
  inferInstanceAs (Decidable (∃ x ∈ d.directives, x.name = "entity" ∧ ∃ a ∈ x.arguments, a.name = some "events"))

def roles : List Role := Role.all.filter fun r => d.Carries r

def places : List String :=
  match d.kind with
  | .record => d.fields.map fun f => slot f.name
  | .sum => [slot "payload"]
  | .synonym => []

def functions : List String := d.kind.functions ++ d.roles.flatMap Role.functions

/-- A field has an accessor if a role gives it one, or if it is public and no role keeps its name for others. -/
def accessors : List String :=
  (d.fields.map (·.name)).filter fun n => d.roles.any (·.accesses n) ||
    (d.fields.any (fun f => f.name = n && f.isExposed) && !d.roles.any (n ∈ ·.reserved))

/-- Every name that is bound on the class of a declaration, once for each thing that it is bound to. What stands
in the body of the class is bound as the class spells it. -/
def bindings : List String :=
  d.places.map (PrivateName.spell d.name) ++ d.accessors.map (PrivateName.spell d.name) ++ d.functions
    ++ d.variants.map (·.name) ++ if d.Publishes then [Role.eventsArgument] else []

inductive Overlaps : Prop
  /-- The class spells the places of two fields in one way. -/
  | places {m n : String} (hm : m ∈ d.places) (hn : n ∈ d.places) (hne : m ≠ n)
      (he : PrivateName.spell d.name m = PrivateName.spell d.name n)
  | accessors {m n : String} (hm : m ∈ d.accessors) (hn : n ∈ d.accessors) (hne : m ≠ n)
      (he : PrivateName.spell d.name m = PrivateName.spell d.name n)
  /-- The accessor of a field stands where another field is stored. -/
  | stored {m n : String} (hm : m ∈ d.places) (hn : n ∈ d.accessors)
      (he : PrivateName.spell d.name m = PrivateName.spell d.name n)
  /-- A field has its place or its accessor where the class has a function. -/
  | function {n : String} (hn : n ∈ d.places ∨ n ∈ d.accessors) (hf : n ∈ d.functions)
  /-- A variant is bound where its sum has something else than the members that it is checked against. -/
  | variant {v : Variant} (hv : v ∈ d.variants)
      (hn : v.name ∈ ["_payload", "__slots__", "__match_args__", "__init__", "__repr__", "__eq__", "__hash__"])

end Declaration

/-! ## Names that are spelled otherwise -/

namespace PrivateName
variable {owner m n : String}

/-- A class spells a name otherwise only with a single underscore at its start. -/
theorem spell_eq_or (owner n : String) :
    spell owner n = n ∨ ∃ c cs, (spell owner n).toList = '_' :: c :: cs ∧ c ≠ '_' := by
  unfold spell
  split
  · next h =>
    right
    simp only [Bool.and_eq_true, Bool.not_eq_true'] at h
    cases hs : owner.toList.dropWhile (· = '_') with
    | nil =>
      rw [stem, hs] at h
      exact absurd h.2 (by decide)
    | cons c cs =>
      have hne : owner.toList.dropWhile (· = '_') ≠ [] := by
        rw [hs]
        exact List.cons_ne_nil c cs
      have hc := List.head_dropWhile_not (· = '_') hne
      simp only [hs, List.head_cons, decide_eq_false_iff_not] at hc
      refine ⟨c, cs ++ n.toList, ?_, hc⟩
      simp [stem, hs]
  · exact .inl rfl

/-- A name that no class spells otherwise, and that no other name is spelled as. -/
def isPlain (n : String) : Bool :=
  !isPrivate n &&
    match n.toList with
    | '_' :: c :: _ => c = '_'
    | _ => true

theorem spell_of_isPlain (h : isPlain n = true) : spell owner n = n := by
  rw [isPlain, Bool.and_eq_true, Bool.not_eq_true'] at h
  exact spell_of_not_isPrivate h.1

theorem eq_of_spell_eq (h : isPlain n = true) (he : spell owner m = n) : m = n := by
  rcases spell_eq_or owner m with hm | ⟨c, cs, hm, hc⟩
  · rw [← hm, he]
  · rw [he] at hm
    rw [isPlain, hm] at h
    simp [hc] at h

end PrivateName

theorem Kind.isPlain_of_mem {k : Kind} : ∀ n ∈ k.functions, PrivateName.isPlain n = true := by
  cases k <;> decide

theorem Role.isPlain_of_mem {r : Role} : ∀ n ∈ r.functions, PrivateName.isPlain n = true := by
  cases r <;> decide

theorem Role.eq_valueObject_of_copy {r : Role} (h : "__copy__" ∈ r.functions) : r = .valueObject := by
  revert h
  cases r <;> decide

/-! ## What a class has from its roles -/

namespace Declaration
variable {d : Declaration} {r : Role} {n : String}

theorem mem_roles : r ∈ d.roles ↔ d.Carries r := by
  rw [roles, List.mem_filter, decide_eq_true_iff]
  exact and_iff_right (Role.mem_all r)

theorem mem_functions : n ∈ d.functions ↔ n ∈ d.kind.functions ∨ ∃ r, d.Carries r ∧ n ∈ r.functions := by
  rw [functions, List.mem_append, List.mem_flatMap]
  simp only [mem_roles]

theorem isPlain_of_mem_functions (h : n ∈ d.functions) : PrivateName.isPlain n = true := by
  rcases mem_functions.mp h with hn | ⟨r, -, hn⟩
  · exact Kind.isPlain_of_mem n hn
  · exact Role.isPlain_of_mem n hn

theorem mem_accessors : n ∈ d.accessors ↔ n ∈ d.fields.map (·.name) ∧ ((∃ r, d.Carries r ∧ r.accesses n = true) ∨
    ((∃ f ∈ d.fields, f.name = n ∧ f.isExposed = true) ∧ ∀ r, d.Carries r → n ∉ r.reserved)) := by
  simp only [accessors, List.mem_filter, Bool.or_eq_true, Bool.and_eq_true, List.any_eq_true, mem_roles,
    decide_eq_true_eq, Bool.not_eq_true', List.any_eq_false]

end Declaration

/-- What a role supplies are its functions, of which the copy goes with the clone, and the accessors of fields. -/
theorem Role.supplies_iff {r : Role} {c : Descriptor} {n : String} (h : r.fault? c = none) :
    r.Supplies c n ↔ (n ∈ r.functions ∧ n ≠ "__copy__") ∨ (n ∈ c.fields.map (·.name) ∧ r.accesses n = true) := by
  rw [fault?_eq_none_iff] at h
  have hfield : ∀ m q, Condition.hasField m q ∈ r.conditions → m ∈ c.fields.map (·.name) := by
    intro m q hm
    obtain ⟨f, hf, -⟩ := Condition.hasField_iff.mp (h _ hm)
    obtain ⟨hmem, rfl⟩ := Descriptor.mem_of_field? hf
    exact List.mem_map_of_mem hmem
  cases r with
  | entity =>
    -- the role requires the two fields it always has accessors for
    have hid := hfield "id" _ (by simp [conditions]; rfl)
    have hversion := hfield "version" _ (by simp [conditions]; rfl)
    simp only [Supplies, functions, accesses, List.mem_cons, List.not_mem_nil, or_false, and_true]
    constructor
    · rintro ((rfl | rfl | rfl | rfl) | hn)
      · exact .inr hid
      · exact .inr hversion
      · exact .inl ⟨.inl rfl, by decide⟩
      · exact .inl ⟨.inr rfl, by decide⟩
      · exact .inr hn
    · rintro (⟨rfl | rfl, -⟩ | hn)
      · exact .inl (.inr (.inr (.inl rfl)))
      · exact .inl (.inr (.inr (.inr rfl)))
      · exact .inr hn
  | valueObject =>
    simp only [Supplies, functions, accesses, Bool.false_eq_true, and_false, or_false, List.mem_cons, List.not_mem_nil]
    constructor
    · rintro (rfl | rfl | rfl | rfl | rfl) <;> exact ⟨by simp, by decide⟩
    · rintro ⟨rfl | rfl | rfl | rfl | rfl | rfl, hn⟩ <;> simp_all
  | domainEvent =>
    simp only [Supplies, functions, accesses, List.not_mem_nil, false_and, false_or, decide_eq_true_eq]
    refine ⟨fun hn => ⟨?_, hn⟩, And.right⟩
    simp only [List.mem_cons, List.not_mem_nil, or_false] at hn
    rcases hn with rfl | rfl | rfl | rfl
    · exact hfield _ .timestamp (by simp [conditions])
    · exact hfield _ .identifier (by simp [conditions])
    · exact hfield _ .identifier (by simp [conditions])
    · exact hfield _ .integer (by simp [conditions])
  | domainEvents =>
    simp only [Supplies, functions, accesses, Bool.false_eq_true, and_false, or_false]
    refine ⟨fun hn => ⟨hn, ?_⟩, And.left⟩
    rintro rfl
    exact absurd hn (by decide)
  | command => simp [Supplies, functions, accesses]
  | query => simp [Supplies, functions, accesses]

/-! ## Copies -/

namespace Member

def copies : Member → List String
  | clone _ _ => ["__copy__"]
  | _ => []

theorem mem_of_mem_put {m x : Member} {ms : List Member} (h : x ∈ m.put ms) : x = m ∨ x ∈ ms := by
  induction ms with
  | nil => exact .inl (List.mem_singleton.mp h)
  | cons y ms ih =>
    rw [put] at h
    split at h
    · exact (List.mem_cons.mp h).imp id fun hx => List.mem_cons_of_mem _ hx
    · rcases List.mem_cons.mp h with rfl | h
      · exact .inr (by simp)
      · exact (ih h).imp id fun hx => List.mem_cons_of_mem _ hx

theorem mem_of_mem_foldl_put {x : Member} {xs ms : List Member} (h : x ∈ xs.foldl (fun ms m => m.put ms) ms) :
    x ∈ xs ∨ x ∈ ms := by
  induction xs generalizing ms with
  | nil => exact .inr h
  | cons y xs ih =>
    rcases ih h with h | h
    · exact .inl (List.mem_cons_of_mem _ h)
    · rcases mem_of_mem_put h with rfl | h
      · exact .inl List.mem_cons_self
      · exact .inr h

theorem names_ofMember (owner : String) (m : Member) :
    (Live.Loading.ofMember owner m).flatMap Live.Loading.Item.names =
      PrivateName.spell owner m.name :: m.copies := by
  cases m with
  | accessor name annotation reading docs => cases reading <;> rfl
  | property name annotation docs => rfl
  | equality cls field => rfl
  | hash field => rfl
  | display field => rfl
  | clone cls field => rfl
  | tryFrom cls field annotation error => rfl
  | dispatch cls variants name annotation => rfl

end Member

def Member.isOfValue : Member → Bool
  | .display _ | .clone _ _ | .tryFrom _ _ _ _ => true
  | .accessor _ _ _ _ | .property _ _ _ | .equality _ _ | .hash _ | .dispatch _ _ _ _ => false

theorem isOfValue_contractAccessor (f : Field) : (Fragment.contractAccessor f).isOfValue = false := by
  unfold Fragment.contractAccessor
  split <;> rfl

theorem isOfValue_of_fragment {a : Applied} {f : Fragment} (h : a.fragment = .ok f) (hr : a.role ≠ .valueObject) :
    ∀ m ∈ f.members, m.isOfValue = false := by
  intro m hm
  rw [Applied.fragment] at h
  cases hrole : a.role with
  | entity =>
    simp only [hrole, Fragment.ofEntity, bind_eq_ok_iff] at h
    obtain ⟨id, -, version, -, h⟩ := h
    cases h
    rcases Member.mem_of_mem_foldl_put hm with hm | hm
    · obtain ⟨g, -, rfl⟩ := List.mem_map.mp hm
      exact isOfValue_contractAccessor g
    · simp only [List.mem_cons, List.not_mem_nil, or_false] at hm
      rcases hm with rfl | rfl | rfl | rfl
      · exact isOfValue_contractAccessor id
      · exact isOfValue_contractAccessor version
      · rfl
      · rfl
  | valueObject => exact (hr hrole).elim
  | domainEvent =>
    simp only [hrole, Fragment.ofDomainEvent, bind_eq_ok_iff] at h
    obtain ⟨occurred, -, id, -, aggregate, -, version, -, h⟩ := h
    cases h
    obtain ⟨g, -, rfl⟩ := List.mem_map.mp hm
    exact isOfValue_contractAccessor g
  | domainEvents =>
    rw [hrole] at h
    cases h
    obtain ⟨x, -, rfl⟩ := List.mem_map.mp hm
    rfl
  | command =>
    rw [hrole] at h
    cases h
    cases hm
  | query =>
    rw [hrole] at h
    cases h
    cases hm

theorem members_of_valueObject {a : Applied} {f : Fragment} (h : a.fragment = .ok f) (hr : a.role = .valueObject) :
    ∃ value : Field, f.members = [.display "value", .equality a.descriptor.name "value", .hash "value",
      .clone a.descriptor.name value.name,
      .tryFrom a.descriptor.name value.name value.type.annotation (ValueError.ofOwner a.descriptor.name).name] := by
  simp only [Applied.fragment, hr, Fragment.ofValueObject] at h
  split at h
  · cases h
  · next value rest hf =>
    cases h
    exact ⟨value, rfl⟩

theorem Member.copies_eq_nil {m : Member} (h : m.isOfValue = false) : m.copies = [] := by
  cases m <;> first | rfl | cases h

theorem copies_of_fragment {a : Applied} {f : Fragment} (h : a.fragment = .ok f) :
    f.members.flatMap Member.copies = if a.role = .valueObject then ["__copy__"] else [] := by
  split
  · next hr =>
    obtain ⟨value, hm⟩ := members_of_valueObject h hr
    rw [hm]
    rfl
  · next hr =>
    exact List.flatMap_eq_nil_iff.mpr fun m hm => Member.copies_eq_nil (isOfValue_of_fragment h hr m hm)

/-! ## A class and its declaration -/

namespace Outline
variable {d : Declaration} {c : Descriptor} {roles : List Applied} {fs : List Fragment} {p : ClassPlan} {n : String}

theorem map_name_supplied (h : Outline d c roles fs p) :
    p.supplied.map Member.name = (ClassPlan.suppliedBy fs).map ClassPlan.Supplied.name := by
  rw [h.plan]
  exact List.map_map

theorem mem_supplied (h : Outline d c roles fs p) :
    n ∈ p.supplied.map Member.name ↔ ∃ r, d.Carries r ∧ r.Supplies c n := by
  rw [h.map_name_supplied, ClassPlan.mem_suppliedBy]
  constructor
  · rintro ⟨f, hf, hn⟩
    obtain ⟨a, hs, hr, rfl⟩ := h.stem_of_mem hf
    exact ⟨a.role, hr, (hs.contributes.supplies n).mp hn⟩
  · rintro ⟨r, hr, hn⟩
    obtain ⟨f, hf, a, hs, rfl, rfl⟩ := h.stem_of_carries hr
    exact ⟨f, hf, (hs.contributes.supplies n).mpr hn⟩

theorem mem_copies (h : Outline d c roles fs p) :
    n ∈ p.supplied.flatMap Member.copies ↔ n = "__copy__" ∧ d.Carries .valueObject := by
  have hmem : n ∈ p.supplied.flatMap Member.copies ↔ ∃ f ∈ fs, n ∈ f.members.flatMap Member.copies := by
    simp only [h.plan, ClassPlan.suppliedBy, List.map_flatMap, List.map_map, List.mem_flatMap, List.mem_map]
    constructor
    · rintro ⟨m, ⟨f, hf, x, hx, rfl⟩, hn⟩
      exact ⟨f, hf, x, hx, hn⟩
    · rintro ⟨f, hf, x, hx, hn⟩
      exact ⟨x, ⟨f, hf, x, hx, rfl⟩, hn⟩
  rw [hmem]
  constructor
  · rintro ⟨f, hf, hn⟩
    obtain ⟨a, hs, hr, -⟩ := h.stem_of_mem hf
    rw [copies_of_fragment hs.gives] at hn
    split at hn
    · next hv => exact ⟨List.mem_singleton.mp hn, hv ▸ hr⟩
    · cases hn
  · rintro ⟨rfl, hr⟩
    obtain ⟨f, hf, a, hs, ha, -⟩ := h.stem_of_carries hr
    refine ⟨f, hf, ?_⟩
    rw [copies_of_fragment hs.gives, if_pos ha]
    exact List.mem_singleton.mpr rfl

theorem mem_reserved (h : Outline d c roles fs p) :
    n ∈ fs.flatMap (·.reserved) ↔ ∃ r, d.Carries r ∧ n ∈ r.reserved := by
  rw [List.mem_flatMap]
  constructor
  · rintro ⟨f, hf, hn⟩
    obtain ⟨a, hs, hr, -⟩ := h.stem_of_mem hf
    exact ⟨a.role, hr, hs.furnishes.reserved ▸ hn⟩
  · rintro ⟨r, hr, hn⟩
    obtain ⟨f, hf, a, hs, rfl, -⟩ := h.stem_of_carries hr
    exact ⟨f, hf, hs.furnishes.reserved ▸ hn⟩

theorem mem_events (h : Outline d c roles fs p) : n ∈ p.events.map (fun _ => Role.eventsArgument) ↔
    n ∈ if d.Publishes then [Role.eventsArgument] else [] := by
  have hif : n ∈ (if d.Publishes then [Role.eventsArgument] else []) ↔ n = "events" ∧ d.Publishes := by
    split
    · next hp => simp [hp, Role.eventsArgument]
    · next hp => simp [hp]
  rw [hif, ← h.planned.exists_assigned_iff, h.plan]
  simp only [List.mem_map, List.mem_filterMap]
  constructor
  · rintro ⟨e, ⟨f, hf, he⟩, rfl⟩
    exact ⟨f, hf, by rw [Fragment.assigned, he]; exact List.mem_singleton.mpr rfl⟩
  · rintro ⟨f, hf, hn⟩
    rw [Fragment.assigned] at hn
    split at hn
    · next e he => exact ⟨e, ⟨f, hf, he⟩, (List.mem_singleton.mp hn).symm⟩
    · cases hn

end Outline

/-- What the layout of a class does in its body binds the functions of its kind and its properties. -/
theorem Layout.names_layoutItems (owner : String) (l : Layout) :
    (Live.Loading.layoutItems owner l).flatMap Live.Loading.Item.names =
      l.kind.functions ++ l.assigned.map (PrivateName.spell owner) := by
  have hplain : ∀ n, PrivateName.isPlain n = true → PrivateName.spell owner n = n :=
    fun n hn => PrivateName.spell_of_isPlain hn
  cases l with
  | record fields assignable =>
    simp only [Live.Loading.layoutItems, List.flatMap_append, List.flatMap_assoc, Member.names_ofMember, kind, assigned,
      Kind.functions, List.map_map]
    congr 1
    · simp only [List.flatMap_cons, List.flatMap_nil, Live.Loading.Item.names, Live.Loading.function,
        Live.Function.spell, hplain "__init__" (by decide), hplain "__repr__" (by decide)]
      rfl
    · exact List.map_eq_flatMap.symm
  | sum variants payload =>
    simp only [Live.Loading.layoutItems, List.flatMap_cons, List.flatMap_nil, Live.Loading.Item.names,
      Live.Loading.function, Live.Function.spell, hplain "__init__" (by decide), hplain "__repr__" (by decide),
      hplain "payload" (by decide), hplain "__eq__" (by decide), hplain "__hash__" (by decide)]
    rfl

namespace Outline
variable {d : Declaration} {c : Descriptor} {roles : List Applied} {fs : List Fragment} {p : ClassPlan} {n : String}

theorem layout_eq (h : Outline d c roles fs p) (hown : d.HoldsOwnParts) : p.layout.kind = d.kind ∧
    p.layout.places = d.places ∧ p.variants = d.variants ∧ c.fields = d.fields := by
  have hd := h.describes
  rw [h.plan]
  cases hk : d.kind with
  | record =>
    rw [Declaration.describe, hk] at hd
    rw [Declaration.HoldsOwnParts, hk] at hown
    rw [← Except.ok.inj hd, Declaration.places, hk, hown.1]
    exact ⟨rfl, rfl, rfl, rfl⟩
  | sum =>
    rw [Declaration.describe, hk] at hd
    rw [Declaration.HoldsOwnParts, hk] at hown
    rw [← Except.ok.inj hd, Declaration.places, hk, hown.1]
    exact ⟨rfl, rfl, rfl, rfl⟩
  | synonym =>
    rw [Declaration.describe, hk] at hd
    cases hd

theorem mem_assigned (h : Outline d c roles fs p) (hown : d.HoldsOwnParts) : n ∈ p.layout.assigned ↔
    (∃ f ∈ d.fields, f.name = n ∧ f.isExposed = true) ∧ n ∉ p.supplied.map Member.name ∧
      ∀ r, d.Carries r → n ∉ r.reserved := by
  have hreserved : n ∉ fs.flatMap (·.reserved) ↔ ∀ r, d.Carries r → n ∉ r.reserved := by
    rw [h.mem_reserved]
    simp only [not_exists, not_and]
  have hfields := (h.layout_eq hown).2.2.2
  rw [← hreserved, h.map_name_supplied, ← not_or, ← List.mem_append, ← hfields, h.plan]
  cases hs : c.shape with
  | record fields =>
    simp only [ClassPlan.layOut, Layout.assigned, Descriptor.fields, hs, List.mem_map, List.mem_filter,
      decide_eq_true_eq]
    constructor
    · rintro ⟨f, ⟨hf, hexposed, hfree⟩, rfl⟩
      exact ⟨⟨f, hf, rfl, hexposed⟩, hfree⟩
    · rintro ⟨⟨f, hf, rfl, hexposed⟩, hfree⟩
      exact ⟨f, ⟨hf, hexposed, hfree⟩, rfl⟩
  | sum variants =>
    simp [ClassPlan.layOut, Layout.assigned, Descriptor.fields, hs]

/-- What the layout and the roles give a class are the accessors of its declaration and the functions of its roles. -/
theorem mem_assigned_or_supplied (h : Outline d c roles fs p) (hown : d.HoldsOwnParts) :
    n ∈ p.layout.assigned ∨ n ∈ p.supplied.map Member.name ↔
      n ∈ d.accessors ∨ ∃ r, d.Carries r ∧ n ∈ r.functions ∧ n ≠ "__copy__" := by
  have hsupplied : n ∈ p.supplied.map Member.name ↔ ∃ r, d.Carries r ∧
      ((n ∈ r.functions ∧ n ≠ "__copy__") ∨ (n ∈ d.fields.map (·.name) ∧ r.accesses n = true)) := by
    rw [h.mem_supplied]
    refine exists_congr fun r => and_congr_right fun hr => ?_
    rw [Role.supplies_iff (h.fault?_of_carries hr), (h.layout_eq hown).2.2.2]
  rw [h.mem_assigned hown, Declaration.mem_accessors]
  constructor
  · rintro (⟨⟨f, hf, rfl, hexposed⟩, -, hreserved⟩ | hn)
    · exact .inl ⟨List.mem_map_of_mem hf, .inr ⟨⟨f, hf, rfl, hexposed⟩, hreserved⟩⟩
    · obtain ⟨r, hr, hn | ⟨hfield, haccess⟩⟩ := hsupplied.mp hn
      · exact .inr ⟨r, hr, hn⟩
      · exact .inl ⟨hfield, .inl ⟨r, hr, haccess⟩⟩
  · rintro (⟨hfield, ⟨r, hr, haccess⟩ | ⟨hexposed, hreserved⟩⟩ | ⟨r, hr, hn⟩)
    · exact .inr (hsupplied.mpr ⟨r, hr, .inr ⟨hfield, haccess⟩⟩)
    · by_cases hn : n ∈ p.supplied.map Member.name
      · exact .inr hn
      · exact .inl ⟨hexposed, hn, hreserved⟩
    · exact .inr (hsupplied.mpr ⟨r, hr, .inl hn⟩)

theorem mem_spelled (h : Outline d c roles fs p) (hown : d.HoldsOwnParts) :
    n ∈ (p.layout.assigned ++ p.supplied.map Member.name).map (PrivateName.spell d.name) ↔
      n ∈ d.accessors.map (PrivateName.spell d.name) ∨ ∃ r, d.Carries r ∧ n ∈ r.functions ∧ n ≠ "__copy__" := by
  -- the functions of roles are spelled as they are; only fields can have private names
  have hplain : ∀ {m : String} {r : Role}, m ∈ r.functions → PrivateName.spell d.name m = m :=
    fun hm => PrivateName.spell_of_isPlain (Role.isPlain_of_mem _ hm)
  rw [List.mem_map, List.mem_map]
  simp only [List.mem_append, h.mem_assigned_or_supplied hown]
  constructor
  · rintro ⟨m, hm | ⟨r, hr, hm, hn⟩, rfl⟩
    · exact .inl ⟨m, hm, rfl⟩
    · rw [hplain hm]
      exact .inr ⟨r, hr, hm, hn⟩
  · rintro (⟨m, hm, rfl⟩ | ⟨r, hr, hm, hn⟩)
    · exact ⟨m, .inl hm, rfl⟩
    · exact ⟨n, .inr ⟨r, hr, hm, hn⟩, hplain hm⟩

/-- What the body of a class binds: its accessors, and the functions of its kind and of its roles. -/
theorem mem_names_items (h : Outline d c roles fs p) (hown : d.HoldsOwnParts) :
    n ∈ (Live.Loading.layoutItems p.name p.layout
        ++ p.supplied.flatMap (Live.Loading.ofMember p.name)).flatMap Live.Loading.Item.names ↔
      n ∈ d.accessors.map (PrivateName.spell d.name) ∨ n ∈ d.functions := by
  have hname : p.name = d.name := by rw [h.plan]
  have hspelled := h.mem_spelled (n := n) hown
  rw [List.map_append, List.mem_append] at hspelled
  have hmembers : n ∈ p.supplied.flatMap (fun m => PrivateName.spell d.name m.name :: m.copies) ↔
      n ∈ p.supplied.flatMap Member.copies ∨ n ∈ (p.supplied.map Member.name).map (PrivateName.spell d.name) := by
    simp only [List.mem_flatMap, List.mem_cons, List.mem_map]
    grind
  have hfunctions : (∃ r, d.Carries r ∧ n ∈ r.functions) ↔
      (n = "__copy__" ∧ d.Carries .valueObject) ∨ ∃ r, d.Carries r ∧ n ∈ r.functions ∧ n ≠ "__copy__" := by
    constructor
    · rintro ⟨r, hr, hn⟩
      by_cases hcopy : n = "__copy__"
      · exact .inl ⟨hcopy, Role.eq_valueObject_of_copy (hcopy ▸ hn) ▸ hr⟩
      · exact .inr ⟨r, hr, hn, hcopy⟩
    · rintro (⟨rfl, hr⟩ | ⟨r, hr, hn, -⟩)
      · exact ⟨.valueObject, hr, by decide⟩
      · exact ⟨r, hr, hn⟩
  rw [List.flatMap_append, Layout.names_layoutItems, List.flatMap_assoc, hname, (h.layout_eq hown).1]
  simp only [Member.names_ofMember]
  rw [List.mem_append, List.mem_append, hmembers, h.mem_copies, Declaration.mem_functions, hfunctions,
    or_or_or_comm, hspelled, or_left_comm, or_assoc]

theorem mem_bound (h : Outline d c roles fs p) (hown : d.HoldsOwnParts) : n ∈ p.bound ↔ n ∈ d.bindings := by
  obtain ⟨-, hplaces, hvariants, -⟩ := h.layout_eq hown
  have hname : p.name = d.name := by rw [h.plan]
  rw [ClassPlan.bound, Declaration.bindings, List.mem_append, List.mem_append, List.mem_append, h.mem_names_items hown,
    h.mem_events, hplaces, hvariants, hname]
  simp only [List.mem_append, or_assoc]

end Outline

/-! ## Different names -/

theorem slot_injective : Function.Injective slot := by
  intro m n h
  have := congrArg String.toList h
  simp only [slot, String.toList_append] at this
  exact String.toList_inj.mp (List.append_cancel_left this)

theorem Kind.nodup_functions (k : Kind) : k.functions.Nodup := by
  cases k <;> decide

theorem Role.nodup_functions (r : Role) : r.functions.Nodup := by
  cases r <;> decide

theorem Role.eq_or_of_mem_functions (r r' : Role) : ∀ n ∈ r.functions, n ∈ r'.functions →
    r = r' ∨ (r = .entity ∧ r' = .valueObject) ∨ (r = .valueObject ∧ r' = .entity) := by
  cases r <;> cases r' <;> decide

theorem Kind.eq_sum_of_mem_functions (k : Kind) (r : Role) : ∀ n ∈ k.functions, n ∈ r.functions →
    k = .sum ∧ (r = .entity ∨ r = .valueObject) := by
  cases k <;> cases r <;> decide

namespace Outline
variable {d : Declaration} {c : Descriptor} {roles : List Applied} {fs : List Fragment} {p : ClassPlan} {n : String}

theorem kind_eq_record (h : Outline d c roles fs p) {r : Role} (hr : d.Carries r)
    (hroles : r = .entity ∨ r = .valueObject ∨ r = .domainEvent) : d.kind = .record := by
  obtain ⟨f, -, a, hs, rfl, -⟩ := h.stem_of_carries hr
  exact hs.fits.kind_eq_record hroles

theorem not_entity_and_value (h : Outline d c roles fs p) (he : d.Carries .entity) (hv : d.Carries .valueObject) :
    False :=
  Role.not_value_and_id (h.fault?_of_carries hv) (h.fault?_of_carries he) (.inl rfl)

/-- The functions of the kind and the roles of a declaration have different names. -/
theorem nodup_functions (h : Outline d c roles fs p) : d.functions.Nodup := by
  refine List.Nodup.append d.kind.nodup_functions ?_ ?_
  · rw [List.nodup_flatMap]
    refine ⟨fun r _ => r.nodup_functions, ?_⟩
    have hroles : d.roles.Nodup := (by decide : Role.all.Nodup).filter _
    refine List.Pairwise.imp_of_mem (fun {r r'} hr hr' hne n hn hn' => ?_) hroles
    rw [Declaration.mem_roles] at hr hr'
    rcases Role.eq_or_of_mem_functions r r' n hn hn' with he | ⟨rfl, rfl⟩ | ⟨rfl, rfl⟩
    · exact hne he
    · exact h.not_entity_and_value hr hr'
    · exact h.not_entity_and_value hr' hr
  · intro n hn hn'
    obtain ⟨r, hr, hn'⟩ := List.mem_flatMap.mp hn'
    rw [Declaration.mem_roles] at hr
    obtain ⟨hsum, hroles⟩ := Kind.eq_sum_of_mem_functions d.kind r n hn hn'
    have hrecord := h.kind_eq_record hr (hroles.imp_right .inl)
    rw [hsum] at hrecord
    cases hrecord

theorem not_free (h : Outline d c roles fs p) : ¬Refused d := by
  have hok : d.check.isOk = true := by
    rw [h.checks]
    rfl
  rw [Module.refused_iff hok h.describes h.planned]
  exact not_or.mpr ⟨h.single, h.free⟩

end Outline

/-! ## What overlaps -/

namespace Declaration
variable {d : Declaration} {c : Descriptor} {roles : List Applied} {fs : List Fragment} {p : ClassPlan} {n : String}

theorem nodup_places (hw : Naming.WellNamed d) : d.places.Nodup := by
  rw [places]
  split
  · have := hw.distinct_fields.map slot_injective
    rwa [List.map_map] at this
  · exact List.nodup_singleton _
  · exact List.nodup_nil

theorem nodup_accessors (hw : Naming.WellNamed d) : d.accessors.Nodup := hw.distinct_fields.filter _

/-- A variant that passes the check of its sum stands where another member does only if that is not checked. -/
theorem variant_spec (h : Outline d c roles fs p) (hown : d.HoldsOwnParts) {v : Variant} (hv : v ∈ d.variants) :
    d.kind = .sum ∧ (v.name ∈ d.places.map (PrivateName.spell d.name) ∨ v.name ∈ d.functions ↔
      v.name ∈ ["_payload", "__slots__", "__match_args__", "__init__", "__repr__", "__eq__", "__hash__"]) := by
  have hk : d.kind = .sum := by
    cases hk : d.kind with
    | record => rw [HoldsOwnParts, hk] at hown; rw [hown.1] at hv; cases hv
    | sum => rfl
    | synonym => rw [HoldsOwnParts, hk] at hown; rw [hown.2.1] at hv; cases hv
  refine ⟨hk, ?_⟩
  have hplaces : d.places.map (PrivateName.spell d.name) = ["_payload"] := by
    rw [places, hk]
    exact congrArg (fun n => [n]) (PrivateName.spell_of_not_isPrivate (by decide))
  have hpayload : v.name ∉ ["payload", "variants"] := fun hn => h.not_free (.variant hk hv hn)
  rw [hplaces, mem_functions, hk]
  constructor
  · rintro (hn | hn | ⟨r, hr, hn⟩)
    · simp_all
    · simp only [Kind.functions] at hn
      simp_all
    · cases r with
      | entity =>
        have := h.kind_eq_record hr (.inl rfl)
        rw [hk] at this
        cases this
      | valueObject =>
        have := h.kind_eq_record hr (.inr (.inl rfl))
        rw [hk] at this
        cases this
      | domainEvents => exact (h.not_free (.accessor hk hr hv hn)).elim
      | domainEvent => cases hn
      | command => cases hn
      | query => cases hn
  · intro hn
    simp only [List.mem_cons, List.not_mem_nil, or_false] at hn
    rcases hn with hn | hn | hn | hn | hn | hn | hn <;> simp [hn, Kind.functions]

theorem events_spec (h : Outline d c roles fs p) (hown : d.HoldsOwnParts) (hp : d.Publishes) :
    "events" ∉ d.places.map (PrivateName.spell d.name) ∧ "events" ∉ d.accessors.map (PrivateName.spell d.name) ∧
      "events" ∉ d.functions ∧ d.variants = [] := by
  have hk : d.kind = .record := h.planned.kind_eq_record_of_publishes hp
  have hplain : PrivateName.isPlain "events" = true := by decide
  refine ⟨fun hn => ?_, fun hn => ?_, fun hn => ?_, ?_⟩
  · obtain ⟨m, hm, he⟩ := List.mem_map.mp hn
    rw [PrivateName.eq_of_spell_eq hplain he, places, hk] at hm
    obtain ⟨f, -, hf⟩ := List.mem_map.mp hm
    have := congrArg (fun s => s.toList.head?) hf
    simp [slot] at this
  · obtain ⟨m, hm, he⟩ := List.mem_map.mp hn
    rw [PrivateName.eq_of_spell_eq hplain he, mem_accessors] at hm
    obtain ⟨f, hf, hname⟩ := List.mem_map.mp hm.1
    exact h.not_free (.events hp hf hname)
  · rcases mem_functions.mp hn with hn | ⟨r, hr, hn⟩
    · rw [hk] at hn
      exact absurd hn (by decide)
    · cases r <;> exact absurd hn (by decide)
  · rw [HoldsOwnParts, hk] at hown
    exact hown.1

end Declaration

/-! ## Each name once -/

theorem Member.nodup_copies (m : Member) : m.copies.Nodup := by
  cases m with
  | clone owner field => exact List.nodup_singleton _
  | _ => exact List.nodup_nil

theorem Member.name_of_mem_copies {m : Member} {n : String} (h : n ∈ m.copies) : m.name = "clone" := by
  cases m with
  | clone owner field => rfl
  | _ => cases h

namespace Outline
variable {d : Declaration} {c : Descriptor} {roles : List Applied} {fs : List Fragment} {p : ClassPlan}

theorem nodup_assigned (h : Outline d c roles fs p) (hown : d.HoldsOwnParts) (hw : Naming.WellNamed d) :
    p.layout.assigned.Nodup := by
  have hnames : (c.fields.map (·.name)).Nodup := (h.layout_eq hown).2.2.2 ▸ hw.distinct_fields
  rw [h.plan]
  cases hs : c.shape with
  | record fields =>
    rw [Descriptor.fields, hs] at hnames
    exact hnames.sublist (List.filter_sublist.map _)
  | sum variants => exact List.nodup_nil

theorem nodup_supplied (h : Outline d c roles fs p) : (p.supplied.map Member.name).Nodup := by
  rw [h.map_name_supplied, ClassPlan.map_name_suppliedBy]
  exact h.planned.nodup_iff.mpr h.single

theorem nodup_copies (h : Outline d c roles fs p) : (p.supplied.flatMap Member.copies).Nodup := by
  rw [List.nodup_flatMap]
  refine ⟨fun m _ => m.nodup_copies, (List.pairwise_map.mp h.nodup_supplied).imp fun hne n hn hn' => ?_⟩
  exact hne ((Member.name_of_mem_copies hn).trans (Member.name_of_mem_copies hn').symm)

theorem nodup_events (h : Outline d c roles fs p) : (p.events.map fun _ => Role.eventsArgument).Nodup := by
  have hentity : ∀ f ∈ fs, f.role ≠ .entity → f.events = none := by
    intro f hf hr
    obtain ⟨a, hs, -⟩ := h.stem_of_mem hf
    rw [hs.contributes.role] at hr
    rw [hs.contributes.events, if_neg hr]
  have hevents : p.events = ((fs.find? (·.role = .entity)).bind (·.events)).toList := by
    rw [h.plan]
    exact h.filterMap_eq hentity
  rw [hevents]
  cases (fs.find? (·.role = .entity)).bind (·.events) with
  | none => exact List.nodup_nil
  | some e => exact List.nodup_singleton _

/-- Unless two names overlap, a class has each accessor and each function but the copy as a member of its own. -/
theorem perm_members (h : Outline d c roles fs p) (hown : d.HoldsOwnParts) (hw : Naming.WellNamed d)
    (hno : ¬d.Overlaps) : (p.layout.assigned ++ p.supplied.map Member.name).Perm
      (d.accessors ++ (d.roles.flatMap Role.functions).filter (· ≠ "__copy__")) := by
  have hfunctions := (List.nodup_append.mp h.nodup_functions).2.1
  refine (List.perm_ext_iff_of_nodup ?_ ?_).mpr fun n => ?_
  · refine List.Nodup.append (h.nodup_assigned hown hw) h.nodup_supplied fun n hn hn' => ?_
    exact ((h.mem_assigned hown).mp hn).2.1 hn'
  · refine List.Nodup.append (Declaration.nodup_accessors hw) (hfunctions.filter _) fun n hn hn' => ?_
    exact hno (.function (.inr hn) (List.mem_append_right _ (List.mem_of_mem_filter hn')))
  · rw [List.mem_append, h.mem_assigned_or_supplied hown, List.mem_append, List.mem_filter, List.mem_flatMap]
    simp only [Declaration.mem_roles, decide_eq_true_eq, ← exists_and_right, and_assoc]

theorem perm_copies (h : Outline d c roles fs p) :
    ((d.roles.flatMap Role.functions).filter (· ≠ "__copy__") ++ p.supplied.flatMap Member.copies).Perm
      (d.roles.flatMap Role.functions) := by
  have hfunctions := (List.nodup_append.mp h.nodup_functions).2.1
  refine (List.perm_ext_iff_of_nodup ?_ hfunctions).mpr fun n => ?_
  · refine List.Nodup.append (hfunctions.filter _) h.nodup_copies fun n hn hn' => ?_
    exact of_decide_eq_true (List.mem_filter.mp hn).2 (h.mem_copies.mp hn').1
  · rw [List.mem_append, List.mem_filter, h.mem_copies, decide_eq_true_eq]
    constructor
    · rintro (⟨hn, -⟩ | ⟨rfl, hr⟩)
      · exact hn
      · exact List.mem_flatMap.mpr ⟨.valueObject, Declaration.mem_roles.mpr hr, by decide⟩
    · intro hn
      by_cases hcopy : n = "__copy__"
      · obtain ⟨r, hr, hmem⟩ := List.mem_flatMap.mp hn
        exact .inr ⟨hcopy, Role.eq_valueObject_of_copy (hcopy ▸ hmem) ▸ Declaration.mem_roles.mp hr⟩
      · exact .inl ⟨hn, hcopy⟩

/-- Unless two names overlap, the body of a class binds each accessor and each function of its declaration once. -/
theorem perm_body (h : Outline d c roles fs p) (hown : d.HoldsOwnParts) (hw : Naming.WellNamed d)
    (hno : ¬d.Overlaps) :
    ((Live.Loading.layoutItems p.name p.layout
        ++ p.supplied.flatMap (Live.Loading.ofMember p.name)).flatMap Live.Loading.Item.names).Perm
      (d.accessors.map (PrivateName.spell d.name) ++ d.functions) := by
  have hplain : ((d.roles.flatMap Role.functions).filter (· ≠ "__copy__")).map (PrivateName.spell d.name) =
      (d.roles.flatMap Role.functions).filter (· ≠ "__copy__") := by
    refine (List.map_congr_left fun n hn => ?_).trans (List.map_id _)
    obtain ⟨r, -, hr⟩ := List.mem_flatMap.mp (List.mem_of_mem_filter hn)
    exact PrivateName.spell_of_isPlain (Role.isPlain_of_mem n hr)
  have hmembers := (h.perm_members hown hw hno).map (PrivateName.spell d.name)
  rw [List.map_append, List.map_append, hplain] at hmembers
  have hsupplied : (p.supplied.flatMap fun m => PrivateName.spell d.name m.name :: m.copies).Perm
      ((p.supplied.map Member.name).map (PrivateName.spell d.name) ++ p.supplied.flatMap Member.copies) := by
    rw [List.map_map, List.map_eq_flatMap]
    exact (List.flatMap_append_perm p.supplied (fun m => [PrivateName.spell d.name m.name]) Member.copies).symm
  have hname : p.name = d.name := by rw [h.plan]
  have hparts : (Live.Loading.layoutItems p.name p.layout
      ++ p.supplied.flatMap (Live.Loading.ofMember p.name)).flatMap Live.Loading.Item.names =
      d.kind.functions ++ (p.layout.assigned.map (PrivateName.spell d.name) ++
        p.supplied.flatMap fun m => PrivateName.spell d.name m.name :: m.copies) := by
    rw [List.flatMap_append, Layout.names_layoutItems, List.flatMap_assoc, hname, (h.layout_eq hown).1,
      List.append_assoc]
    simp only [Member.names_ofMember]
  rw [hparts, Declaration.functions]
  refine .trans (.append_left _ ?_) (List.perm_append_comm_assoc _ _ _)
  refine .trans (hsupplied.append_left _) ?_
  rw [← List.append_assoc]
  refine .trans (hmembers.append_right _) ?_
  rw [List.append_assoc]
  exact h.perm_copies.append_left _

theorem perm_bindings (h : Outline d c roles fs p) (hown : d.HoldsOwnParts) (hw : Naming.WellNamed d)
    (hno : ¬d.Overlaps) : p.bound.Perm d.bindings := by
  obtain ⟨-, hplaces, hvariants, -⟩ := h.layout_eq hown
  have hname : p.name = d.name := by rw [h.plan]
  have hevents : (p.events.map fun _ => Role.eventsArgument).Perm
      (if d.Publishes then [Role.eventsArgument] else []) := by
    refine (List.perm_ext_iff_of_nodup h.nodup_events ?_).mpr fun n => h.mem_events
    split
    · exact List.nodup_singleton _
    · exact List.nodup_nil
  rw [ClassPlan.bound, Declaration.bindings, hplaces, hvariants, hname]
  have hbody := h.perm_body hown hw hno
  rw [hname] at hbody
  rw [List.append_assoc (d.places.map _) (d.accessors.map _)]
  exact ((hbody.append_left _).append_right _).append hevents

end Outline

section
variable {d : Declaration} {c : Descriptor} {roles : List Applied} {fs : List Fragment} {p : ClassPlan}

theorem not_overlaps_of_nodup (h : Outline d c roles fs p) (hown : d.HoldsOwnParts) (hn : d.bindings.Nodup) : ¬d.Overlaps := by
  have hspell : ∀ {n}, n ∈ d.functions → PrivateName.spell d.name n = n :=
    fun hn => PrivateName.spell_of_isPlain (Declaration.isPlain_of_mem_functions hn)
  intro ho
  simp only [Declaration.bindings, List.nodup_append, List.mem_append] at hn
  obtain ⟨⟨⟨⟨hplaces, haccessors, hstored⟩, -, hfunctions⟩, -, hvariants⟩, -, -⟩ := hn
  cases ho with
  | places hm hn hne he => exact hne (List.inj_on_of_nodup_map hplaces hm hn he)
  | accessors hm hn hne he => exact hne (List.inj_on_of_nodup_map haccessors hm hn he)
  | stored hm hn he => exact hstored _ (List.mem_map_of_mem hm) _ (List.mem_map_of_mem hn) he
  | @function n hn hf =>
    refine hfunctions (PrivateName.spell d.name n) ?_ n hf (hspell hf)
    exact hn.imp List.mem_map_of_mem List.mem_map_of_mem
  | variant hv hn =>
    rcases (Declaration.variant_spec h hown hv).2.mpr hn with hmem | hmem
    · exact hvariants _ (.inl (.inl hmem)) _ (List.mem_map_of_mem hv) rfl
    · exact hvariants _ (.inr hmem) _ (List.mem_map_of_mem hv) rfl

theorem nodup_bindings (h : Outline d c roles fs p) (hown : d.HoldsOwnParts) (hw : Naming.WellNamed d) (hno : ¬d.Overlaps) :
    d.bindings.Nodup := by
  have hplaces : (d.places.map (PrivateName.spell d.name)).Nodup :=
    (Declaration.nodup_places hw).map_on fun m hm n hn he => by_contra fun hne => hno (.places hm hn hne he)
  have haccessors : (d.accessors.map (PrivateName.spell d.name)).Nodup :=
    (Declaration.nodup_accessors hw).map_on fun m hm n hn he => by_contra fun hne => hno (.accessors hm hn hne he)
  have hstored : ∀ a ∈ d.places.map (PrivateName.spell d.name), ∀ b ∈ d.accessors.map (PrivateName.spell d.name),
      a ≠ b := by
    rintro a ha b hb he
    obtain ⟨m, hm, rfl⟩ := List.mem_map.mp ha
    obtain ⟨n, hn, rfl⟩ := List.mem_map.mp hb
    exact hno (.stored hm hn he)
  have hfunctions : ∀ a ∈ d.places.map (PrivateName.spell d.name) ++ d.accessors.map (PrivateName.spell d.name),
      ∀ b ∈ d.functions, a ≠ b := by
    rintro a ha b hb rfl
    rw [← List.map_append] at ha
    obtain ⟨m, hm, he⟩ := List.mem_map.mp ha
    obtain rfl := PrivateName.eq_of_spell_eq (Declaration.isPlain_of_mem_functions hb) he
    exact hno (.function (List.mem_append.mp hm) hb)
  have hvariants : ∀ a ∈ d.places.map (PrivateName.spell d.name) ++ d.accessors.map (PrivateName.spell d.name)
      ++ d.functions, ∀ b ∈ d.variants.map (·.name), a ≠ b := by
    rintro a ha b hb rfl
    obtain ⟨v, hv, rfl⟩ := List.mem_map.mp hb
    obtain ⟨hsum, hspec⟩ := Declaration.variant_spec h hown hv
    have hnone : d.accessors = [] := by
      rw [Declaration.HoldsOwnParts, hsum] at hown
      rw [Declaration.accessors, hown.1]
      rfl
    rw [hnone, List.map_nil, List.append_nil, List.mem_append] at ha
    exact hno (.variant hv (hspec.mp ha))
  have hevents : ∀ a ∈ d.places.map (PrivateName.spell d.name) ++ d.accessors.map (PrivateName.spell d.name)
      ++ d.functions ++ d.variants.map (·.name), ∀ b ∈ (if d.Publishes then [Role.eventsArgument] else []), a ≠ b := by
    rintro a ha b hb rfl
    split at hb
    · next hp =>
      obtain rfl := List.mem_singleton.mp hb
      obtain ⟨hplace, haccess, hfunction, hvariant⟩ := Declaration.events_spec h hown hp
      simp only [hvariant, List.map_nil, List.append_nil, List.mem_append] at ha
      rcases ha with (ha | ha) | ha
      · exact hplace ha
      · exact haccess ha
      · exact hfunction ha
    · cases hb
  simp only [Declaration.bindings, List.nodup_append]
  refine ⟨⟨⟨⟨hplaces, haccessors, hstored⟩, h.nodup_functions, hfunctions⟩, hw.distinct_variants, hvariants⟩, ?_,
    hevents⟩
  split
  · exact List.nodup_singleton _
  · exact List.nodup_nil

/-- The names that are bound on the class of a declaration differ unless two of them overlap. -/
theorem nodup_bindings_iff (h : Outline d c roles fs p) (hown : d.HoldsOwnParts) (hw : Naming.WellNamed d) :
    d.bindings.Nodup ↔ ¬d.Overlaps := ⟨not_overlaps_of_nodup h hown, nodup_bindings h hown hw⟩

end

/-- A planned class binds the names that its declaration has bound, and each of them once, exactly if no two of
them overlap: planning compares the variants and events only with some of the members, and fields with none. -/
theorem bindings_nodup_iff {text : String} {file : Option String} {ds : List Declaration} {d : Declaration} {p : ClassPlan}
    (h : parse text file = .ok ds) (hd : d ∈ ds) (hp : ClassPlan.ofDeclaration d = .ok p) :
    (∀ n, n ∈ p.bound ↔ n ∈ d.bindings) ∧ (d.bindings.Nodup ↔ ¬d.Overlaps) ∧
      (d.bindings.Nodup → p.bound.Perm d.bindings) := by
  obtain ⟨c, roles, fs, ho⟩ := exists_outline hp
  have hown := holdsOwnParts_of_parse h d hd
  have hw := wellNamed_of_parse h d hd
  have hiff := nodup_bindings_iff ho hown hw
  exact ⟨fun n => ho.mem_bound hown, hiff, fun hn => ho.perm_bindings hown hw (hiff.mp hn)⟩

theorem bindings_nodup_iff_entity :
    ∃ d p, parse "@entity(events = E) record R \x7b id: uuid version: int8 \x7d" none = .ok [d] ∧
      ClassPlan.ofDeclaration d = .ok p ∧ ¬d.Overlaps ∧ p.bound.Perm
        ["_id", "_version", "id", "version", "__slots__", "__init__", "__repr__", "__eq__", "__hash__", "events"] := by
  let d : Declaration :=
    { kind := .record, name := "R", directives := [⟨"entity", [⟨some "events", .text "E"⟩], some ⟨1, 2, none⟩⟩]
      fields := [⟨"id", ⟨"uuid", []⟩, .hidden, [], some ⟨1, 32, none⟩⟩,
        ⟨"version", ⟨"int8", []⟩, .hidden, [], some ⟨1, 41, none⟩⟩]
      location := some ⟨1, 28, none⟩ }
  have h : parse "@entity(events = E) record R \x7b id: uuid version: int8 \x7d" none = .ok [d] :=
    toOption_eq_some_iff.mp (by decide +kernel)
  have hok : (ClassPlan.ofDeclaration d).isOk = true := by decide +kernel
  obtain ⟨p, hp⟩ := isOk_iff.mp hok
  obtain ⟨-, hiff, hperm⟩ := bindings_nodup_iff h (List.mem_singleton.mpr rfl) hp
  have hb : d.bindings = ["_id", "_version", "id", "version", "__slots__", "__init__", "__repr__", "__eq__", "__hash__",
      "events"] := by decide +kernel
  have hn : d.bindings.Nodup := by
    rw [hb]
    decide
  exact ⟨d, p, h, hp, hiff.mp hn, hb ▸ hperm hn⟩

/-- A variant takes the place of the constructor of its sum. -/
theorem bindings_nodup_constructor :
    ∃ d p, parse "sum S \x7b __init__(int8) \x7d" none = .ok [d] ∧ ClassPlan.ofDeclaration d = .ok p ∧ ¬p.bound.Nodup := by
  refine ⟨{ kind := .sum, name := "S", variants := [⟨"__init__", ⟨"int8", []⟩, [], some ⟨1, 9, none⟩⟩]
            location := some ⟨1, 5, none⟩ }, _, ?_, rfl, ?_⟩
  · cbv
  · decide

end DomainModel
