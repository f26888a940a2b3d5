import DomainModel.Proofs.Naming.Names
import DomainModel.Proofs.Source.Place

/-!
# The first fault of a file

The elements of a file are gone through in the order in which they stand (`sites`), and the fault that is
reported is that of the first element which breaks a rule, by itself or together with the elements before it
(`check_first_fault`). In a file that was read no other such element stands before it.
-/

namespace DomainModel.Naming

/-- A named element of a file, with the elements of its kind that stand before it. -/
inductive Site
  | declaration (before : List Declaration) (d : Declaration)
  | field (owner : Declaration) (before : List Field) (f : Field)
  | variant (owner : Declaration) (before : List Variant) (v : Variant)

namespace Site

def name : Site → String
  | declaration _ d => d.name
  | field _ _ f => f.name
  | variant _ _ v => v.name

def location : Site → Option Location
  | declaration _ d => d.location
  | field _ _ f => f.location
  | variant _ _ v => v.location

def element : Site → Element
  | declaration .. => .declaration
  | field .. => .field
  | variant .. => .variant

/-- An element breaks a rule on names. A name that is given again is compared with those before it. -/
inductive Breaks : Site → NamingFault → Prop
  | reservedWord {s : Site} : s.name ∈ Keyword.reserved → Breaks s (.reservedWord s.element s.name)
  | reservedField {owner before f} : f.name = "self" ∨ f.name = "cls" → Breaks (.field owner before f) (.reservedField f.name)
  | repeatedDeclaration {earlier first later d} : first.name = d.name → d.name ∉ earlier.map (·.name) →
    Breaks (.declaration (earlier ++ first :: later) d) (.repeatedDeclaration d.name first.location)
  | repeatedField {owner before f} : f.name ∈ before.map (·.name) →
    Breaks (.field owner before f) (.repeatedField owner.name f.name)
  | repeatedVariant {owner before v} : v.name ∈ before.map (·.name) →
    Breaks (.variant owner before v) (.repeatedVariant owner.name v.name)

def Offends (s : Site) : Prop := ∃ fault, s.Breaks fault

end Site

def Site.fault? : Site → Option NamingFault
  | declaration before d => declarationFault? before d
  | field owner before f => fieldFault? owner before f
  | variant owner before v => variantFault? owner before v

/-- The elements of a list, each behind those before it. -/
def sitesOf {α : Type} (site : List α → α → Site) : (before : List α) → List α → List Site
  | _, [] => []
  | before, x :: xs => site before x :: sitesOf site (before ++ [x]) xs

def sitesFrom : (before : List Declaration) → List Declaration → List Site
  | _, [] => []
  | before, d :: ds =>
    .declaration before d :: (sitesOf (.field d) [] d.fields ++ sitesOf (.variant d) [] d.variants) ++
      sitesFrom (before ++ [d]) ds

/-- The named elements of a file in their order: a declaration, its fields, its variants, the next one. -/
def sites (ds : List Declaration) : List Site := sitesFrom [] ds

/-! ## What the rules find -/

namespace Site
variable {s : Site} {fault : NamingFault}

theorem breaks_of_fault? (h : s.fault? = some fault) : s.Breaks fault := by
  have hreserved : Keyword.isReserved s.name = true → s.Breaks (.reservedWord s.element s.name) :=
    fun hr => .reservedWord (of_decide_eq_true hr)
  -- at each site in the order of the checks: a reserved word first, then a repetition
  cases s with
  | declaration before d =>
    rw [Site.fault?, declarationFault?] at h
    split at h
    · next hr =>
      cases h
      exact hreserved hr
    · obtain ⟨first, hfirst, rfl⟩ := Option.map_eq_some_iff.mp h
      obtain ⟨hname, earlier, later, rfl, hnot⟩ := List.find?_eq_some_iff_append.mp hfirst
      refine .repeatedDeclaration (of_decide_eq_true hname) fun hmem => ?_
      obtain ⟨e, he, hsame⟩ := List.mem_map.mp hmem
      simpa [hsame] using hnot e he
  | field owner before f =>
    rw [Site.fault?, fieldFault?] at h
    split at h
    · next hr =>
      cases h
      exact hreserved hr
    · split at h
      · next hs =>
        cases h
        exact .reservedField (by simpa [reservedFields] using hs)
      · split at h
        · next hmem =>
          cases h
          exact .repeatedField hmem
        · cases h
  | variant owner before v =>
    rw [Site.fault?, variantFault?] at h
    split at h
    · next hr =>
      cases h
      exact hreserved hr
    · split at h
      · next hmem =>
        cases h
        exact .repeatedVariant hmem
      · cases h

theorem not_breaks_of_fault?_eq_none (h : s.fault? = none) : ¬s.Breaks fault := by
  intro hb
  cases hb with
  | @reservedWord s hr =>
    have hnot : Keyword.isReserved s.name = false := by
      cases s with
      | declaration before d => exact ((declarationFault?_eq_none_iff before d).mp h).1
      | field owner before f => exact ((fieldFault?_eq_none_iff owner before f).mp h).1.1
      | variant owner before v => exact ((variantFault?_eq_none_iff owner before v).mp h).1
    exact of_decide_eq_false hnot hr
  | @reservedField owner before f hs =>
    exact ((fieldFault?_eq_none_iff owner before f).mp h).1.2 (by simpa [reservedFields] using hs)
  | @repeatedDeclaration earlier first later d hname =>
    refine ((declarationFault?_eq_none_iff _ d).mp h).2 ?_
    rw [← hname]
    simp
  | @repeatedField owner before f hmem => exact ((fieldFault?_eq_none_iff owner before f).mp h).2 hmem
  | @repeatedVariant owner before v hmem => exact ((variantFault?_eq_none_iff owner before v).mp h).2 hmem

def diagnostic? (s : Site) : Option Diagnostic := s.fault?.map fun fault => ⟨.naming fault, s.location⟩

end Site

theorem firstFault?_eq_findSome? {α : Type} {rule : List α → α → Option NamingFault} {location : α → Option Location}
    {site : List α → α → Site} (hrule : ∀ before x, (site before x).fault? = rule before x)
    (hlocation : ∀ before x, (site before x).location = location x) (before xs : List α) :
    firstFault? rule location before xs = (sitesOf site before xs).findSome? Site.diagnostic? := by
  induction xs generalizing before with
  | nil => rfl
  | cons x xs ih =>
    rw [firstFault?, sitesOf, List.findSome?_cons, Site.diagnostic?, hrule, hlocation, ih]
    cases rule before x <;> rfl

theorem fault?_eq_findSome? (before : List Declaration) (d : Declaration) :
    fault? before d = (.declaration before d :: (sitesOf (.field d) [] d.fields ++ sitesOf (.variant d) [] d.variants)).findSome?
      Site.diagnostic? := by
  have hfields : firstFault? (fieldFault? d) (·.location) [] d.fields = (sitesOf (.field d) [] d.fields).findSome? Site.diagnostic? :=
    firstFault?_eq_findSome? (fun _ _ => by rfl) (fun _ _ => by rfl) [] d.fields
  have hvariants : firstFault? (variantFault? d) (·.location) [] d.variants =
      (sitesOf (.variant d) [] d.variants).findSome? Site.diagnostic? :=
    firstFault?_eq_findSome? (fun _ _ => by rfl) (fun _ _ => by rfl) [] d.variants
  rw [fault?, hfields, hvariants, List.findSome?_cons, List.findSome?_append, Site.diagnostic?, Site.fault?]
  cases declarationFault? before d <;> rfl

theorem firstFaultFrom?_eq_findSome? (before ds : List Declaration) :
    firstFaultFrom? before ds = (sitesFrom before ds).findSome? Site.diagnostic? := by
  induction ds generalizing before with
  | nil => rfl
  | cons d ds ih => rw [firstFaultFrom?, sitesFrom, List.findSome?_append, fault?_eq_findSome?, ih]

/-- A check fails with the fault of the first element that offends. -/
theorem check_eq_error_iff {ds : List Declaration} {e : Diagnostic} : check ds = .error e ↔
    ∃ before s after, sites ds = before ++ s :: after ∧ s.diagnostic? = some e ∧ ∀ t ∈ before, t.diagnostic? = none := by
  rw [← List.findSome?_eq_some_iff, sites, ← firstFaultFrom?_eq_findSome?, check]
  cases firstFaultFrom? [] ds <;> simp

/-! ## Where the elements stand -/

def Site.mark (s : Site) : String × Option Location := (s.name, s.location)

theorem map_mark_sitesOf {α : Type} {site : List α → α → Site} {mark : α → String × Option Location}
    (h : ∀ before x, (site before x).mark = mark x) (before xs : List α) :
    (sitesOf site before xs).map Site.mark = xs.map mark := by
  induction xs generalizing before with
  | nil => rfl
  | cons x xs ih => rw [sitesOf, List.map_cons, List.map_cons, h, ih]

theorem sublist_marks (before ds : List Declaration) :
    ((sitesFrom before ds).map Site.mark).Sublist (ds.flatMap Declaration.marks) := by
  induction ds generalizing before with
  | nil => exact List.Sublist.refl _
  | cons d ds ih =>
    rw [sitesFrom, List.map_append, List.flatMap_cons]
    refine List.Sublist.append ?_ (ih (before ++ [d]))
    have hfields : (sitesOf (.field d) [] d.fields).map Site.mark = d.fields.map fun f => (f.name, f.location) :=
      map_mark_sitesOf (fun _ _ => by rfl) [] d.fields
    have hvariants : (sitesOf (.variant d) [] d.variants).map Site.mark = d.variants.map fun v => (v.name, v.location) :=
      map_mark_sitesOf (fun _ _ => by rfl) [] d.variants
    rw [List.map_cons, List.map_append, hfields, hvariants]
    exact List.sublist_append_right _ _

theorem sites_located {text : String} {file : Option String} {ds : List Declaration}
    (h : readDeclarations text file = .ok ds) :
    ∃ ps : List Position, ps.Pairwise (· < ·) ∧ (sites ds).map Site.location = ps.map fun p => some (.ofPosition file p) := by
  obtain ⟨ts, k, hs, hf⟩ := (Cursor.run_eq_ok_iff (k := .start file)).mp h
  have hsplit : Splits .start text.toList ts := hs.splits
  obtain ⟨ks, hks, -, hmarks⟩ := (Grammar.isFile_of_steps hs.steps_eq hf).marks
  have hsub := sublist_marks [] ds
  rw [hmarks] at hsub
  obtain ⟨ks', hks', heq⟩ := List.sublist_map_iff.mp hsub
  refine ⟨ks'.map (·.position), List.pairwise_map.mpr (hsplit.pairwise.sublist (hks'.trans hks)), ?_⟩
  have hlocations := congrArg (List.map Prod.snd) heq
  rw [List.map_map, List.map_map] at hlocations
  rw [List.map_map]
  exact hlocations

/-! ## The first fault -/

/-- The names of a file break a rule: one of them is reserved, or two are the same that must differ. -/
def Misnamed (ds : List Declaration) : Prop :=
  (∃ d ∈ ds, d.name ∈ Keyword.reserved ∨
      (∃ f ∈ d.fields, f.name ∈ Keyword.reserved ∨ f.name = "self" ∨ f.name = "cls") ∨
      (∃ v ∈ d.variants, v.name ∈ Keyword.reserved) ∨
      ¬(d.fields.map (·.name)).Nodup ∨ ¬(d.variants.map (·.name)).Nodup) ∨
    ¬(ds.map (·.name)).Nodup

theorem misnamed_iff {ds : List Declaration} : Misnamed ds ↔ check ds ≠ .ok () := by
  rw [ne_eq, check_eq_ok_iff, not_and_or, Misnamed]
  refine or_congr_left ⟨?_, fun h => ?_⟩
  · rintro ⟨d, hd, hbroken⟩ hall
    have hw := hall d hd
    rcases hbroken with h | ⟨f, hf, h⟩ | ⟨v, hv, h⟩ | h | h
    · exact of_decide_eq_false hw.name h
    · obtain ⟨hreserved, hnot⟩ := hw.fields f hf
      rw [reservedFields, List.mem_cons, List.mem_singleton] at hnot
      exact h.elim (of_decide_eq_false hreserved) hnot
    · exact of_decide_eq_false (hw.variants v hv) h
    · exact h hw.distinct_fields
    · exact h hw.distinct_variants
  · by_contra hnone
    push Not at hnone
    refine h fun d hd => ?_
    obtain ⟨hname, hfields, hvariants, hdistinct, hdistinct'⟩ := hnone d hd
    refine ⟨decide_eq_false hname, fun f hf => ?_, hdistinct, fun v hv => decide_eq_false (hvariants v hv), hdistinct'⟩
    obtain ⟨hf, hself, hcls⟩ := hfields f hf
    exact ⟨decide_eq_false hf, by simp [reservedFields, hself, hcls]⟩

/-- Names are refused exactly if they break a rule, and what is reported is the first element that offends, which
is the one with the least position in a file that was read. -/
theorem check_first_fault (ds : List Declaration) : ((∃ e, check ds = .error e) ↔ Misnamed ds) ∧
    ∀ e, check ds = .error e → ∃ before s after fault, sites ds = before ++ s :: after ∧
      (∀ t ∈ before, ¬t.Offends) ∧ s.Breaks fault ∧ e = ⟨.naming fault, s.location⟩ ∧
        ∀ text file, readDeclarations text file = .ok ds → ∃ p, s.location = some (.ofPosition file p) ∧
          ∀ t ∈ sites ds, t.Offends → t = s ∨ ∃ q, t.location = some (.ofPosition file q) ∧ p < q := by
  refine ⟨?_, fun e he => ?_⟩
  · rw [misnamed_iff]
    cases check ds <;> simp
  · obtain ⟨before, s, after, hsites, hs, hbefore⟩ := check_eq_error_iff.mp he
    obtain ⟨fault, hfault, rfl⟩ := Option.map_eq_some_iff.mp hs
    have hnone : ∀ t ∈ before, ¬t.Offends := by
      rintro t ht ⟨fault, hbreaks⟩
      exact Site.not_breaks_of_fault?_eq_none (Option.map_eq_none_iff.mp (hbefore t ht)) hbreaks
    refine ⟨before, s, after, fault, hsites, hnone, Site.breaks_of_fault? hfault, rfl, fun text file hread => ?_⟩
    obtain ⟨ps, hps, hlocations⟩ := sites_located hread
    rw [hsites, List.map_append, List.map_cons] at hlocations
    obtain ⟨ps₁, ps₂, rfl, -, h₂⟩ := List.append_eq_map_iff.mp hlocations
    obtain ⟨p, ps₂, rfl, hp, hafter⟩ := List.map_eq_cons_iff.mp h₂
    refine ⟨p, hp.symm, fun t ht hoffends => ?_⟩
    rw [hsites, List.mem_append, List.mem_cons] at ht
    rcases ht with ht | rfl | ht
    · exact absurd hoffends (hnone t ht)
    · exact .inl rfl
    · obtain ⟨q, hq, hlocation⟩ := List.mem_map.mp (hafter ▸ List.mem_map_of_mem (f := Site.location) ht)
      have hlater := List.rel_of_pairwise_cons (List.pairwise_append.mp hps).2.1 hq
      exact .inr ⟨q, hlocation.symm, hlater⟩

/-- A name is given again, before a variant that is repeated and a reserved word. -/
def repeatedText : String := "record A \x7b a: b \x7d\nsum A \x7b b(c) b(c) \x7d\nrecord in \x7b self: d \x7d"

/-- The name that is given again is reported, and the other elements that offend stand behind it. -/
theorem check_first_fault_repeated : ∃ ds, readDeclarations repeatedText none = .ok ds ∧
    check ds = .error ⟨.naming (.repeatedDeclaration "A" (some ⟨1, 8, none⟩)), some ⟨2, 5, none⟩⟩ ∧ Misnamed ds ∧
      ∃ s ∈ sites ds, s.location = some ⟨2, 5, none⟩ ∧
        ∀ t ∈ sites ds, t.Offends → t = s ∨ ∃ q, t.location = some (.ofPosition none q) ∧ (⟨2, 5⟩ : Position) < q := by
  obtain ⟨ds, hread, he⟩ : ∃ ds, readDeclarations repeatedText none = .ok ds ∧
      check ds = .error ⟨.naming (.repeatedDeclaration "A" (some ⟨1, 8, none⟩)), some ⟨2, 5, none⟩⟩ :=
    ⟨_, by cbv, by decide⟩
  obtain ⟨before, s, after, fault, hsites, -, -, hs, hplace⟩ := (check_first_fault ds).2 _ he
  obtain ⟨p, hp, hleast⟩ := hplace _ _ hread
  have hlocation : s.location = some ⟨2, 5, none⟩ := (congrArg Diagnostic.location hs).symm
  obtain rfl : p = ⟨2, 5⟩ := by
    obtain ⟨line, column⟩ := p
    simp only [hlocation, Location.ofPosition, Option.some.injEq, Location.mk.injEq] at hp
    rw [Position.mk.injEq]
    omega
  exact ⟨ds, hread, he, (check_first_fault ds).1.mp ⟨_, he⟩, s, by simp [hsites], hlocation, hleast⟩

end DomainModel.Naming
