import DomainModel.Proofs.Generation.Checked

/-!
# What the roles ask for

`Role.Meets` lists what each role asks of the shape of its declaration, and `conditions_exact` says that this is
all, and that what is reported is the first condition that is not met. A record is asked about as a set of fields:
their order does not matter, and all roles but that of value objects let it have more of them.
-/

namespace DomainModel

/-! ## Classes of types -/

namespace TypeRef

/-- The name of an identifier's type has `uuid` in it, in whatever case. -/
def IsIdentifier (t : TypeRef) : Prop := "uuid".toList <:+: t.name.toList.map Char.toLower

def IsTimestamp (t : TypeRef) : Prop := t.name = "uint64"

def IsInteger (t : TypeRef) : Prop :=
  t.name ∈ ["int8", "int16", "int32", "int64", "int128", "uint8", "uint16", "uint32", "uint64", "uint128"]

theorem IsTimestamp.isInteger {t : TypeRef} (h : t.IsTimestamp) : t.IsInteger := by
  rw [IsInteger, h]
  decide

end TypeRef

namespace TypeClass
variable {t : TypeRef}

theorem occursIn_iff {word cs : List Char} : occursIn word cs = true ↔ word <:+: cs := by
  induction cs with
  | nil => rw [occursIn, List.isEmpty_iff, List.infix_nil]
  | cons c cs ih => rw [occursIn, Bool.or_eq_true, List.isPrefixOf_iff_prefix, ih, List.infix_cons_iff]

theorem marksIdentifier_iff : marksIdentifier t.name = true ↔ t.IsIdentifier := occursIn_iff

theorem not_isIdentifier_of_isInteger (h : t.IsInteger) : ¬t.IsIdentifier := by
  have hall : ∀ n ∈ integerNames, marksIdentifier n = false := by decide
  rw [← marksIdentifier_iff, hall t.name h]
  exact Bool.false_ne_true

theorem ofName_cases (t : TypeRef) :
    t.IsIdentifier ∧ ¬t.IsInteger ∧ ofName t.name = identifier ∨ ¬t.IsIdentifier ∧ t.IsTimestamp ∧ ofName t.name = timestamp ∨
      ¬t.IsIdentifier ∧ t.IsInteger ∧ ¬t.IsTimestamp ∧ ofName t.name = integer ∨
        ¬t.IsIdentifier ∧ ¬t.IsInteger ∧ ofName t.name = other := by
  rw [ofName]
  split
  · next h =>
    have hi := marksIdentifier_iff.mp h
    exact .inl ⟨hi, fun hn => not_isIdentifier_of_isInteger hn hi, rfl⟩
  · next h =>
    have hi := mt marksIdentifier_iff.mpr h
    split
    · next ht => exact .inr (.inl ⟨hi, ht, rfl⟩)
    · next ht =>
      split
      · next hn => exact .inr (.inr (.inl ⟨hi, hn, ht, rfl⟩))
      · next hn => exact .inr (.inr (.inr ⟨hi, hn, rfl⟩))

end TypeClass

def Requirement.Allows : Requirement → TypeRef → Prop
  | identifier, t => t.IsIdentifier
  | timestamp, t => t.IsTimestamp
  | integer, t => t.IsInteger

theorem Requirement.admits_iff {q : Requirement} {f : Field} : q.admits f.typeClass = true ↔ q.Allows f.type := by
  have hsub : f.type.IsTimestamp → f.type.IsInteger := TypeRef.IsTimestamp.isInteger
  rw [Field.typeClass]
  rcases TypeClass.ofName_cases f.type with ⟨hi, hn, h⟩ | ⟨hi, ht, h⟩ | ⟨hi, hn, ht, h⟩ | ⟨hi, hn, h⟩
  · cases q <;> simp [admits, Allows, TypeClass.isInteger, h, hi, hn, mt hsub hn]
  · cases q <;> simp [admits, Allows, TypeClass.isInteger, h, hi, ht, hsub ht]
  · cases q <;> simp [admits, Allows, TypeClass.isInteger, h, hi, hn, ht]
  · cases q <;> simp [admits, Allows, TypeClass.isInteger, h, hi, hn, mt hsub hn]

/-! ## What a role asks for -/

namespace Descriptor

def IsRecord (d : Descriptor) : Prop := ∃ fields, d.shape = .record fields

def IsSum (d : Descriptor) : Prop := ∃ variants, d.shape = .sum variants

/-- The first field of a name has a type as it is asked for. -/
def Has (d : Descriptor) (name : String) (q : Requirement) : Prop :=
  ∃ before f after, d.fields = before ++ f :: after ∧ (∀ g ∈ before, g.name ≠ name) ∧ f.name = name ∧ q.Allows f.type

def IsEncapsulated (d : Descriptor) : Prop := ∀ f ∈ d.fields, f.visibility = .hidden

/-- There is one field, the value. -/
def IsSingleValue (d : Descriptor) : Prop := ∃ f, d.fields = [f] ∧ f.name = "value"

end Descriptor

def Role.Meets : Role → Descriptor → Prop
  | entity, d => d.IsRecord ∧ d.Has "id" .identifier ∧ d.Has "version" .integer ∧ d.IsEncapsulated
  | valueObject, d => d.IsRecord ∧ d.IsSingleValue
  | domainEvent, d =>
    d.IsRecord ∧ d.Has "id" .identifier ∧ d.Has "aggregate_id" .identifier ∧ d.Has "occurred" .timestamp ∧ d.Has "version" .integer
  | domainEvents, d => d.IsSum
  | command, _ | query, _ => True

namespace Condition

def Met (d : Descriptor) : Condition → Prop
  | isRecord => d.IsRecord
  | isSum => d.IsSum
  | hasField name q => d.Has name q
  | noExposedField => d.IsEncapsulated
  | singleValue => d.IsSingleValue

/-- A condition that is not met is reported as a violation, with the name of the field at fault. -/
inductive Refuses (d : Descriptor) : Condition → Violation → (field : Option String) → Prop
  | notRecord : ¬d.IsRecord → Refuses d isRecord .notRecord none
  | notSum : ¬d.IsSum → Refuses d isSum .notSum none
  | missingField {name q} : ¬d.Has name q → Refuses d (hasField name q) (.missingField name q) (some name)
  | exposedField {before f after} : d.fields = before ++ f :: after → (∀ g ∈ before, g.visibility = .hidden) →
    f.visibility = .exposed → Refuses d noExposedField (.exposedField f.name) (some f.name)
  | notSingleValue : ¬d.IsSingleValue → Refuses d singleValue .notSingleValue (some "value")

end Condition

theorem Visibility.ne_exposed_iff {v : Visibility} : v ≠ .exposed ↔ v = .hidden := by
  cases v <;> simp

namespace Descriptor
variable {d : Descriptor}

theorem isRecord_iff : d.IsRecord ↔ d.isRecord = true := by
  rw [IsRecord, isRecord]
  cases d.shape <;> simp

theorem isSum_iff : d.IsSum ↔ d.isRecord = false := by
  rw [IsSum, isRecord]
  cases d.shape <;> simp

theorem has_iff {name : String} {q : Requirement} :
    d.Has name q ↔ ∃ f, d.field? name = some f ∧ q.admits f.typeClass = true := by
  simp only [Has, field?, List.find?_eq_some_iff_append, Requirement.admits_iff, decide_eq_true_eq, Bool.not_eq_true', decide_eq_false_iff_not]
  grind

theorem isEncapsulated_iff : d.IsEncapsulated ↔ ∀ f ∈ d.fields, f.isExposed = false := by
  simp only [IsEncapsulated, Field.isExposed, decide_eq_false_iff_not, Visibility.ne_exposed_iff]

end Descriptor

namespace Condition
variable {d : Descriptor} {c : Condition} {v : Violation}

theorem met_iff : c.Met d ↔ c.fault? d = none := by
  cases c with
  | isRecord => rw [Met, isRecord_iff, Descriptor.isRecord_iff]
  | isSum => rw [Met, isSum_iff, Descriptor.isSum_iff]
  | hasField name q => rw [Met, hasField_iff, Descriptor.has_iff]
  | noExposedField => rw [Met, noExposedField_iff, Descriptor.isEncapsulated_iff]
  | singleValue => rw [Met, singleValue_iff, Descriptor.IsSingleValue, valueField]

theorem refuses_of_fault? (h : c.fault? d = some v) : c.Refuses d v v.field? := by
  have hnot : ¬c.Met d := by simp [met_iff, h]
  cases c with
  | isRecord =>
    rw [fault?] at h
    split at h
    · cases h
    · cases h
      exact .notRecord hnot
  | isSum =>
    rw [fault?] at h
    split at h
    · cases h
      exact .notSum hnot
    · cases h
  | hasField name q =>
    have hv : v = .missingField name q := by
      rw [fault?] at h
      split at h
      · split at h
        · cases h
        · exact (Option.some.inj h).symm
      · exact (Option.some.inj h).symm
    rw [hv]
    exact .missingField hnot
  | noExposedField =>
    obtain ⟨f, hf, rfl⟩ := Option.map_eq_some_iff.mp h
    obtain ⟨hexposed, before, after, hfields, hbefore⟩ := List.find?_eq_some_iff_append.mp hf
    refine .exposedField hfields (fun g hg => ?_) (of_decide_eq_true hexposed)
    exact Visibility.ne_exposed_iff.mp (by simpa [Field.isExposed] using hbefore g hg)
  | singleValue =>
    have hv : v = .notSingleValue := by
      rw [fault?] at h
      split at h
      · split at h
        · cases h
        · exact (Option.some.inj h).symm
      · exact (Option.some.inj h).symm
    rw [hv]
    exact .notSingleValue hnot

theorem fault?_of_refuses {field : Option String} (h : c.Refuses d v field) : c.fault? d = some v := by
  cases h with
  | notRecord h =>
    rw [Descriptor.isRecord_iff] at h
    rw [fault?, if_neg h]
  | notSum h =>
    rw [Descriptor.isSum_iff, Bool.not_eq_false] at h
    rw [fault?, if_pos h]
  | @missingField name q h =>
    rw [Descriptor.has_iff] at h
    rw [fault?]
    split
    · next f hf => rw [if_neg fun hq => h ⟨f, hf, hq⟩]
    · rfl
  | @exposedField before f after hfields hbefore hf =>
    have hfind : d.fields.find? Field.isExposed = some f := by
      refine List.find?_eq_some_iff_append.mpr ⟨decide_eq_true hf, before, after, hfields, fun g hg => ?_⟩
      simp [Field.isExposed, hbefore g hg]
    rw [fault?, hfind, Option.map_some]
  | notSingleValue h =>
    rw [Descriptor.IsSingleValue] at h
    rw [fault?]
    split
    · next f hf => exact if_neg fun hname => h ⟨f, hf, hname⟩
    · rfl

/-- A condition is refused with the violation that is reported and the field that this names. -/
theorem fault?_eq_some_iff : c.fault? d = some v ↔ c.Refuses d v v.field? :=
  ⟨refuses_of_fault?, fault?_of_refuses⟩

end Condition

theorem Role.meets_iff {r : Role} {d : Descriptor} : r.Meets d ↔ ∀ c ∈ r.conditions, c.Met d := by
  cases r <;> simp [Meets, conditions, Condition.Met]

/-! ## Records as sets of fields -/

namespace Descriptor
variable {d : Descriptor} {fs fs' : List Field} {f : Field} {name : String} {q : Requirement}

def withFields (d : Descriptor) (fs : List Field) : Descriptor := { d with shape := .record fs }

theorem isRecord_withFields (d : Descriptor) (fs : List Field) : (d.withFields fs).IsRecord := ⟨fs, rfl⟩

theorem has_of_mem (hdistinct : (fs.map (·.name)).Nodup) (hf : f ∈ fs) (hname : f.name = name) (hq : q.Allows f.type) :
    (d.withFields fs).Has name q := by
  obtain ⟨before, after, rfl⟩ := List.append_of_mem hf
  refine ⟨before, f, after, rfl, fun g hg hsame => ?_, hname, hq⟩
  rw [List.map_append, List.nodup_append] at hdistinct
  exact hdistinct.2.2 g.name (List.mem_map_of_mem hg) f.name (by simp) (hsame.trans hname.symm)

theorem Has.perm (h : (d.withFields fs).Has name q) (hdistinct : (fs.map (·.name)).Nodup) (hp : fs.Perm fs') :
    (d.withFields fs').Has name q := by
  obtain ⟨before, f, after, hfields, -, hname, hq⟩ := h
  have hmem : f ∈ fs := by
    rw [show fs = before ++ f :: after from hfields]
    simp
  exact has_of_mem ((hp.map (·.name)).nodup_iff.mp hdistinct) (hp.mem_iff.mp hmem) hname hq

theorem Has.insert (h : (d.withFields (fs ++ fs')).Has name q) (hnew : ∀ g ∈ fs ++ fs', g.name ≠ f.name) :
    (d.withFields (fs ++ f :: fs')).Has name q := by
  obtain ⟨g, hg, hq⟩ := has_iff.mp h
  obtain ⟨hmem, hname⟩ := mem_of_field? hg
  have hother : ¬f.name = name := fun hsame => hnew g hmem (hname.trans hsame.symm)
  refine has_iff.mpr ⟨g, ?_, hq⟩
  have hskip : (fs ++ f :: fs').find? (·.name = name) = (fs ++ fs').find? (·.name = name) := by
    rw [List.find?_append, List.find?_append, List.find?_cons_of_neg (by simpa using hother)]
  exact hskip.trans hg

end Descriptor

namespace Role
variable {r : Role} {d : Descriptor} {fs fs' : List Field} {f : Field}

theorem Meets.perm (h : r.Meets (d.withFields fs)) (hdistinct : (fs.map (·.name)).Nodup) (hp : fs.Perm fs') :
    r.Meets (d.withFields fs') := by
  rw [meets_iff] at h ⊢
  intro c hc
  have hmet := h c hc
  cases c with
  | isRecord => exact d.isRecord_withFields fs'
  | isSum =>
    obtain ⟨variants, hvariants⟩ := hmet
    cases hvariants
  | hasField name q => exact Descriptor.Has.perm hmet hdistinct hp
  | noExposedField => exact fun f hf => hmet f (hp.mem_iff.mpr hf)
  | singleValue =>
    obtain ⟨f, hf, hname⟩ := hmet
    have hone : fs = [f] := hf
    rw [hone] at hp
    exact ⟨f, List.perm_singleton.mp hp.symm, hname⟩

theorem Meets.insert (h : r.Meets (d.withFields (fs ++ fs'))) (hr : r ≠ valueObject) (hnew : ∀ g ∈ fs ++ fs', g.name ≠ f.name)
    (hhidden : f.visibility = .hidden) : r.Meets (d.withFields (fs ++ f :: fs')) := by
  have hother : ∀ r : Role, r ≠ valueObject → Condition.singleValue ∉ r.conditions := by
    intro r hr
    cases r <;> first | exact absurd rfl hr | decide
  rw [meets_iff] at h ⊢
  intro c hc
  have hmet := h c hc
  cases c with
  | isRecord => exact d.isRecord_withFields (fs ++ f :: fs')
  | isSum =>
    obtain ⟨variants, hvariants⟩ := hmet
    cases hvariants
  | hasField name q => exact Descriptor.Has.insert hmet hnew
  | noExposedField =>
    intro g hg
    rcases List.mem_append.mp hg with hg | hg
    · exact hmet g (List.mem_append_left fs' hg)
    · rcases List.mem_cons.mp hg with rfl | hg
      · exact hhidden
      · exact hmet g (List.mem_append_right fs hg)
  | singleValue => exact absurd hc (hother r hr)

theorem fault?_eq_none_iff_meets : r.fault? d = none ↔ r.Meets d := by
  rw [fault?_eq_none_iff, meets_iff]
  exact forall₂_congr fun c _ => Condition.met_iff.symm

/-- A role accepts exactly what meets its conditions, and otherwise reports the first one that is not met. In a record
whose fields have different names, their order does not matter; all roles but that of value objects accept a record
still if a private field with a new name is put in. -/
theorem conditions_exact (r : Role) (d : Descriptor) : (r.fault? d = none ↔ r.Meets d) ∧
    (∀ v, r.fault? d = some v ↔ ∃ before c after, r.conditions = before ++ c :: after ∧ (∀ b ∈ before, b.Met d) ∧
      c.Refuses d v v.field?) ∧
    (∀ fs fs' : List Field, (fs.map (·.name)).Nodup → fs.Perm fs' →
      (r.fault? (d.withFields fs') = none ↔ r.fault? (d.withFields fs) = none)) ∧
    ∀ fs fs' f, r ≠ valueObject → r.fault? (d.withFields (fs ++ fs')) = none → f.visibility = .hidden →
      (∀ g ∈ fs ++ fs', g.name ≠ f.name) → r.fault? (d.withFields (fs ++ f :: fs')) = none := by
  refine ⟨fault?_eq_none_iff_meets, fun v => ?_, fun fs fs' hdistinct hp => ?_, fun fs fs' f hr h hhidden hnew => ?_⟩
  · rw [fault?, List.findSome?_eq_some_iff]
    simp only [Condition.met_iff, Condition.fault?_eq_some_iff]
    grind
  · rw [fault?_eq_none_iff_meets, fault?_eq_none_iff_meets]
    exact ⟨fun h => h.perm ((hp.map (·.name)).nodup_iff.mp hdistinct) hp.symm, fun h => h.perm hdistinct hp⟩
  · rw [fault?_eq_none_iff_meets] at h ⊢
    exact h.insert hr hnew hhidden

/-- An entity whose fields are put in another order, and which is given one more. -/
theorem conditions_exact_entity : ∃ (d : Descriptor) (version id name : Field), id.type.name = "UserUUID" ∧ version.type.name = "uint64" ∧
    entity.Meets (d.withFields [version, id]) ∧ entity.fault? (d.withFields [id, version]) = none ∧
      entity.fault? (d.withFields [id, name, version]) = none ∧ ¬entity.Meets (d.withFields [id, { name with visibility := .exposed }]) := by
  let d : Descriptor := ⟨"User", [], none, .sum []⟩
  let version : Field := { name := "version", type := ⟨"uint64", []⟩ }
  let id : Field := { name := "id", type := ⟨"UserUUID", [⟨"int8", []⟩]⟩ }
  let name : Field := { name := "name", type := ⟨"string", []⟩ }
  obtain ⟨-, -, hperm, hinsert⟩ := conditions_exact entity d
  have haccepted : entity.fault? (d.withFields [version, id]) = none := by decide
  have hswapped : entity.fault? (d.withFields [id, version]) = none := (hperm _ _ (by decide) (.swap id version [])).mpr haccepted
  refine ⟨d, version, id, name, rfl, rfl, (conditions_exact entity _).1.mp haccepted, hswapped, ?_, fun h => ?_⟩
  · exact hinsert [id] [version] name (by decide) hswapped rfl (by decide)
  · exact absurd ((conditions_exact entity _).1.mpr h) (by decide)

end Role

end DomainModel
