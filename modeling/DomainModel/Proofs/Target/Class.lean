import DomainModel.Proofs.Generation.Members
import DomainModel.Proofs.Target.Layout

/-!
# Classes in modules

The statements that a class makes, and when it can be read: what its roles supply can be read if its layout can, but for
the accessors of a sum that has a lone underscore as its name.
-/

namespace DomainModel

/-! ## Members of a class -/

/-- The members that the roles of a declaration supply, and those that a layout has for its fields. -/
inductive Derives (d : Declaration) (c : Descriptor) : Member → Prop
  | property {f : Field} (hf : f ∈ c.fields) : Derives d c (ClassPlan.fieldProperty f)
  | accessor {f : Field} (hf : f ∈ c.fields) : Derives d c (Fragment.contractAccessor f)
  | equality {n : String} (hn : n = "id" ∨ n = "value") : Derives d c (.equality c.name n)
  | hash {n : String} (hn : n = "id" ∨ n = "value") : Derives d c (.hash n)
  | display : Derives d c (.display "value")
  | clone : Derives d c (.clone c.name "value")
  | tryFrom {f : Field} (hf : f ∈ c.fields) :
    Derives d c (.tryFrom c.name "value" f.type.annotation (ValueError.ofOwner c.name).name)
  | dispatch {x : String × String} (hr : d.Carries .domainEvents) (hx : x ∈ Fragment.eventAccessors) :
    Derives d c (.dispatch c.name (c.variants.map (·.name)) x.1 x.2)

theorem mem_fields_of_lookUp {c : Descriptor} {n : String} {q : Requirement} {f : Field}
    (h : Fragment.lookUp c n q = .ok f) : f ∈ c.fields := by
  rw [Fragment.lookUp] at h
  split at h
  · next g hg =>
    cases h
    exact (Descriptor.mem_of_field? hg).1
  · cases h

theorem derives_of_fragment {d : Declaration} {a : Applied} {f : Fragment} (hd : d.Carries a.role)
    (hc : a.role.fault? a.descriptor = none) (h : a.fragment = .ok f) : ∀ m ∈ f.members, Derives d a.descriptor m := by
  intro m hm
  rw [Applied.fragment] at h
  cases hr : a.role with
  | entity =>
    simp only [hr, Fragment.ofEntity, bind_eq_ok_iff] at h
    obtain ⟨id, hid, version, hversion, h⟩ := h
    cases h
    -- the two required accessors replace those of the fields they stand for
    rcases Member.mem_of_mem_foldl_put hm with hm | hm
    · obtain ⟨g, hg, rfl⟩ := List.mem_map.mp hm
      exact .accessor (List.mem_filter.mp hg).1
    · simp only [List.mem_cons, List.not_mem_nil, or_false] at hm
      rcases hm with rfl | rfl | rfl | rfl
      · exact .accessor (mem_fields_of_lookUp hid)
      · exact .accessor (mem_fields_of_lookUp hversion)
      · exact .equality (.inl rfl)
      · exact .hash (.inl rfl)
  | valueObject =>
    -- the conditions of the role leave one field, named `value`
    rw [hr, Role.fault?, List.findSome?_eq_none_iff] at hc
    obtain ⟨value, hfields, hvalue⟩ := Condition.singleValue_iff.mp (hc .singleValue (by decide))
    simp only [hr, Fragment.ofValueObject, hfields] at h
    cases h
    simp only [List.mem_cons, List.not_mem_nil, or_false, hvalue, Condition.valueField] at hm
    rcases hm with rfl | rfl | rfl | rfl | rfl
    · exact .display
    · exact .equality (.inr rfl)
    · exact .hash (.inr rfl)
    · exact .clone
    · exact .tryFrom (by rw [hfields]; exact List.mem_cons_self)
  | domainEvent =>
    simp only [hr, Fragment.ofDomainEvent, bind_eq_ok_iff] at h
    obtain ⟨occurred, hoccurred, id, hid, aggregate, haggregate, version, hversion, h⟩ := h
    cases h
    simp only [List.map_cons, List.map_nil, List.mem_cons, List.not_mem_nil, or_false] at hm
    rcases hm with rfl | rfl | rfl | rfl
    · exact .accessor (mem_fields_of_lookUp hoccurred)
    · exact .accessor (mem_fields_of_lookUp hid)
    · exact .accessor (mem_fields_of_lookUp haggregate)
    · exact .accessor (mem_fields_of_lookUp hversion)
  | domainEvents =>
    rw [hr] at h
    cases h
    obtain ⟨x, hx, rfl⟩ := List.mem_map.mp hm
    exact .dispatch (hr ▸ hd) hx
  | command =>
    rw [hr] at h
    cases h
    cases hm
  | query =>
    rw [hr] at h
    cases h
    cases hm

theorem Outline.derives {d : Declaration} {c : Descriptor} {roles : List Applied} {fs : List Fragment} {p : ClassPlan}
    (h : Outline d c roles fs p) : ∀ m ∈ p.layout.members ++ p.supplied, Derives d c m := by
  intro m hm
  rcases List.mem_append.mp hm with hm | hm
  · rw [h.plan] at hm
    cases hs : c.shape with
    | record fields =>
      simp only [ClassPlan.layOut, hs, Layout.members, List.mem_map, List.mem_filter] at hm
      obtain ⟨f, ⟨hf, -⟩, rfl⟩ := hm
      exact .property (by simpa [Descriptor.fields, hs] using hf)
    | sum variants =>
      simp only [ClassPlan.layOut, hs, Layout.members] at hm
      cases hm
  · have hmem : ∃ f ∈ fs, m ∈ f.members := by
      rw [h.plan] at hm
      obtain ⟨s, hs, rfl⟩ := List.mem_map.mp hm
      obtain ⟨f, hf, hs⟩ := List.mem_flatMap.mp hs
      obtain ⟨x, hx, rfl⟩ := List.mem_map.mp hs
      exact ⟨f, hf, hx⟩
    obtain ⟨f, hf, hmem⟩ := hmem
    obtain ⟨a, hs, hd, rfl⟩ := h.stem_of_mem hf
    exact derives_of_fragment hd hs.fits.conditions hs.gives m hmem

theorem Outline.layout_cases {d : Declaration} {c : Descriptor} {roles : List Applied} {fs : List Fragment} {p : ClassPlan}
    (h : Outline d c roles fs p) :
    (∃ assignable, p.layout = .record c.fields assignable ∧ c.variants = []) ∨
      ∃ payload, p.layout = .sum c.variants payload ∧ c.fields = [] := by
  rw [h.plan, Descriptor.fields, Descriptor.variants]
  cases c.shape with
  | record fields => exact .inl ⟨_, rfl, rfl⟩
  | sum variants => exact .inr ⟨_, rfl, rfl⟩

end DomainModel

namespace DomainModel.Target

open Live.Loading

variable {d : Declaration} {c : Descriptor} {p : ClassPlan} {m : Member}

def memberStatements : Member → List Statement
  | .accessor _ _ _ docs => [Header.documented (.function true ["self"]) docs .result []]
  | .property _ _ docs =>
    [Header.documented (.function true ["self"]) docs .result [], .block (.function true ["self", "value"]) .plain []]
  | .equality _ _ => [.block (.function false ["self", "other"]) (.block .branch .result []) [.result]]
  | .hash _ => [.block (.function false ["self"]) .result []]
  | .display _ => [.block (.function false ["self"]) .result []]
  | .clone _ _ => [.block (.function false ["self"]) .result [], .plain]
  | .tryFrom _ field _ _ => [.block (.function true ["cls", field]) .text [.block .branch .plain [], .result]]
  | .dispatch _ variants _ _ => [.block (.function true ["self"]) (dispatching variants) []]

structure HasNames (c : Descriptor) : Prop where
  name : IsFree c.name
  fields : ∀ f ∈ c.fields, IsFree f.name ∧ HasWords f.type
  variants : ∀ v ∈ c.variants, IsFree v.name ∧ HasWords v.payload

theorem IsFree.errorName {n : String} (h : IsFree n) : IsFree (ValueError.ofOwner n).name := by
  have hname : (ValueError.ofOwner n).name.toList = n.toList ++ "ValidationError".toList := String.toList_append
  have hlengths : ∀ w ∈ Keyword.reserved, w.toList.length < 15 := by decide
  refine ⟨?_, Bool.eq_false_iff.mpr fun hr => ?_⟩
  · obtain ⟨c, cs, hn, hc, hcs⟩ := h.word
    have hsuffix : "ValidationError".toList.all Word.isPart = true := by decide
    refine ⟨c, cs ++ "ValidationError".toList, by rw [hname, hn]; rfl, hc, fun d hd => ?_⟩
    exact (List.mem_append.mp hd).elim (hcs d) (List.all_eq_true.mp hsuffix d)
  · have hlt := hlengths _ (of_decide_eq_true hr)
    rw [hname, List.length_append] at hlt
    exact absurd hlt (by simp +decide)

theorem embodies_member (hc : HasNames c) (hm : Derives d c m)
    (hr : ∀ f ∈ c.fields, isReadableField f = true ∧ isBindable (slot f.name) = true) :
    Embodies [Member.tidy m.source] (isReadableMember m = true) (memberStatements m) := by
  have hid : ∀ {n}, n = "id" ∨ n = "value" → IsFree n := by
    rintro n (rfl | rfl) <;> decide
  have hvalue : IsFree "value" := by decide
  have htypes : ∀ s ∈ ["int", "UUID"], IsExpression s.toList true ∧ IsInline s := by
    intro s hs
    have hfree : IsFree s := by
      simp only [List.mem_cons, List.not_mem_nil, or_false] at hs
      rcases hs with rfl | rfl <;> decide
    exact ⟨isExpression_name hfree, hfree.word.isInline⟩
  cases hm with
  | @property f hf =>
    obtain ⟨hn, ht⟩ := hc.fields f hf
    have hread := hr f hf
    rw [isReadableField, Bool.and_eq_true] at hread
    exact Reads.congr (reads_property hn (isExpression_typeText ht) (isInline_typeText ht))
      (by simp [hread, isReadableMember, ClassPlan.fieldProperty])
  | @accessor f hf =>
    obtain ⟨hn, ht⟩ := hc.fields f hf
    have hread := hr f hf
    rw [isReadableField, Bool.and_eq_true] at hread
    rw [Fragment.contractAccessor]
    -- the accessor of the version is the one that reads no field
    split
    · next he =>
      have hversion : IsFree "version" := by decide
      obtain ⟨he, hi⟩ := htypes "int" (by decide)
      have hmember := @reads_accessor _ _ _ f.docs (.count "version") hversion he hi hversion
      exact Reads.congr hmember (by simp +decide [isReadableMember])
    · have hmember := @reads_accessor _ _ _ f.docs (.stored f.name) hn (isExpression_typeText ht)
        (isInline_typeText ht) hn
      exact Reads.congr hmember (by simp [hread, isReadableMember])
  | equality hn => exact Reads.congr (reads_equality hc.name (hid hn)) (by simp [isReadableMember])
  | hash hn => exact Reads.congr (reads_hash (hid hn)) (by simp [isReadableMember])
  | display => exact Reads.congr (reads_display hvalue) (by simp [isReadableMember])
  | clone => exact Reads.congr (reads_clone hc.name hvalue) (by simp +decide [isReadableMember])
  | @tryFrom f hf =>
    obtain ⟨hn, ht⟩ := hc.fields f hf
    have hread := hr f hf
    rw [isReadableField, Bool.and_eq_true] at hread
    have hmember := reads_tryFrom hc.name hvalue hc.name.errorName (isExpression_typeText ht) (isInline_typeText ht)
    exact Reads.congr hmember (by simp +decide [hread, isReadableMember])
  | @dispatch x _ hx =>
    have hvariants : ∀ v ∈ c.variants.map (·.name), IsFree v := by
      intro v hv
      obtain ⟨u, hu, rfl⟩ := List.mem_map.mp hv
      exact (hc.variants u hu).1
    have haccessors : ∀ x ∈ Fragment.eventAccessors,
        IsFree x.1 ∧ isBindable x.1 = true ∧ x.2 ∈ ["int", "UUID"] := by decide
    obtain ⟨hn, hb, hs⟩ := haccessors x hx
    obtain ⟨he, hi⟩ := htypes x.2 hs
    exact Reads.congr (reads_dispatch hc.name hn hvariants he hi) (by simp [hb])

/-! ## Bodies -/

/-- The statements of the body of a class behind its slots. -/
def bodyStatements (p : ClassPlan) : List Statement :=
  fixedStatements p.layout ++ (p.layout.members ++ p.supplied).flatMap memberStatements

theorem embodies_members {ms : List Member}
    (h : ∀ m ∈ ms, Embodies [Member.tidy m.source] (isReadableMember m = true) (memberStatements m)) :
    Embodies (ms.map fun m => Member.tidy m.source) (∀ m ∈ ms, isReadableMember m = true)
      (ms.flatMap memberStatements) := by
  induction ms with
  | nil => exact Reads.nil.congr (by simp)
  | cons m ms ih =>
    have hmore := ih fun x hx => h x (List.mem_cons_of_mem _ hx)
    exact Reads.congr ((h m List.mem_cons_self).append hmore) (by simp)

theorem hasFreeNames {roles : List Applied} {fs : List Fragment} (h : Outline d c roles fs p)
    (hc : HasNames c) : HasFreeNames p.layout := by
  rcases h.layout_cases with ⟨assignable, hl, -⟩ | ⟨payload, hl, -⟩
  · rw [hl]
    exact hc.fields
  · rw [hl]
    exact hc.variants

/-- The body of a class can be read if what it starts with can, and its members. -/
theorem embodies_body {roles : List Applied} {fs : List Fragment} (h : Outline d c roles fs p)
    (hc : HasNames c) (hn : p.name = c.name) :
    Embodies p.body (canRead p.layout = true ∧ ∀ m ∈ p.layout.members ++ p.supplied, isReadableMember m = true)
      (.plain :: bodyStatements p) := by
  have hfields : canRead p.layout = true →
      ∀ f ∈ c.fields, isReadableField f = true ∧ isBindable (slot f.name) = true := by
    intro hread
    rcases h.layout_cases with ⟨assignable, hl, -⟩ | ⟨payload, -, hnil⟩
    · simp only [hl, canRead, Bool.and_eq_true, List.all_eq_true] at hread
      exact fun f hf => ⟨hread.1 f hf, hread.2 f hf⟩
    · simp [hnil]
  have hfixed : Embodies (p.layout.fixed p.name) (canRead p.layout = true) (.plain :: fixedStatements p.layout) :=
    embodies_fixed (hn ▸ hc.name) (hasFreeNames h hc)
  rw [body_eq, bodyStatements, ← List.cons_append]
  exact hfixed.append_of fun hread => embodies_members fun m hm => embodies_member hc (h.derives m hm) (hfields hread)

/-! ## Statements of a body that fit -/

section
variable {k : Context} {b : Bool}

theorem spell_plain {n : String} (hw : IsWord n) (hp : PrivateName.isPrivate n = false) : Block.Context.spell k n = n := by
  rw [Block.Context.spell, hw.plain_eq]
  cases k.owner with
  | none => rfl
  | some owner => exact PrivateName.spell_of_not_isPrivate hp

theorem spell_parameter {n : String} (h : n ∈ ["self", "cls", "value", "other", "payload"]) :
    Block.Context.spell k n = n := by
  have hall : ∀ n ∈ ["self", "cls", "value", "other", "payload"], IsWord n ∧ PrivateName.isPrivate n = false := by decide
  exact spell_plain (hall n h).1 (hall n h).2

theorem fits_function (d : Bool) (ns : List String) (first : Statement) (rest : List Statement) :
    (Statement.block (.function d ns) first rest).fits k false =
      (decide (ns.map (Block.Context.spell k)).Nodup && (first.fits { k with inFunction := true } false &&
        Statement.allFit { k with inFunction := true } false rest)) := by
  rw [Statement.fits]
  rfl

theorem allFit_plain (n : Nat) : Statement.allFit k false (List.replicate n .plain) = true := by
  rw [Statement.allFit_eq]
  exact List.all_eq_true.mpr fun s hs => by rw [List.eq_of_mem_replicate hs]; rfl

theorem fits_dispatching (hk : k.inFunction = true) (vs : List String) : (dispatching vs).fits k false = true := by
  cases vs with
  | nil => rfl
  | cons v vs =>
    have halternative : ∀ c : Context, c.inFunction = true →
        (Statement.block .alternative .result []).fits c true = true := by
      intro c hc
      simp [Statement.fits, Statement.allFit, Header.fits, Header.inside, hc]
    have hrest : Statement.allFit k true (vs.map fun _ => .block .alternative .result []) = true := by
      rw [Statement.allFit_eq, List.all_map]
      exact List.all_eq_true.mpr fun _ _ => halternative k hk
    rw [dispatching, Statement.fits, Header.inside, Header.fits, halternative k hk, hrest]
    rfl

theorem allFit_member (hm : Derives d c m) : Statement.allFit k false (memberStatements m) = true := by
  have hself : Block.Context.spell k "self" = "self" := spell_parameter (by decide)
  have hcls : Block.Context.spell k "cls" = "cls" := spell_parameter (by decide)
  have hvalue : Block.Context.spell k "value" = "value" := spell_parameter (by decide)
  have hother : Block.Context.spell k "other" = "other" := spell_parameter (by decide)
  have hdocumented : ∀ docs, (Header.documented (.function true ["self"]) docs .result []).fits k false = true := by
    intro docs
    rw [fits_documented _ _ _ _ _ _ rfl, fits_function]
    simp [Statement.fits, Statement.allFit]
  cases hm with
  | property hf =>
    simp [ClassPlan.fieldProperty, memberStatements, Statement.allFit, Statement.fits, Header.fits, Header.inside,
      hdocumented, hself, hvalue]
  | @accessor f hf =>
    rw [Fragment.contractAccessor]
    split <;> simp [memberStatements, Statement.allFit, hdocumented]
  | equality hn => simp [memberStatements, Statement.allFit, Statement.fits, Header.fits, Header.inside, hself, hother]
  | hash hn => simp [memberStatements, Statement.allFit, Statement.fits, Header.fits, Header.inside]
  | display => simp [memberStatements, Statement.allFit, Statement.fits, Header.fits, Header.inside]
  | clone => simp [memberStatements, Statement.allFit, Statement.fits, Header.fits, Header.inside]
  | tryFrom hf => simp [memberStatements, Statement.allFit, Statement.fits, Header.fits, Header.inside, hcls, hvalue]
  | dispatch _ hx =>
    have hvariants := fits_dispatching (k := { k with inFunction := true }) rfl (c.variants.map (·.name))
    simp [memberStatements, Statement.allFit, Statement.fits, Header.fits, Header.inside, hvariants]

/-- The parameters of a record are different as its class spells them. -/
def areDistinct (n : String) : Layout → Bool
  | .record fields _ => decide (fields.map fun f => PrivateName.spell n f.name).Nodup
  | .sum _ _ => true

theorem allFit_checks (payload : Option Contract) : Statement.allFit k false (checks payload) = true := by
  cases payload with
  | none => rfl
  | some c => simp [checks, Statement.allFit, Statement.fits, Header.fits, Header.inside]

end

theorem Statement.allFit_append (k : Context) (b : Bool) (ss ts : List Statement) :
    Statement.allFit k b (ss ++ ts) = (Statement.allFit k b ss && Statement.allFit k b ts) := by
  simp only [Statement.allFit_eq, List.all_append]

/-- What a layout starts with fits if the parameters of the class are different. -/
theorem allFit_fixed {n : String} {l : Layout} (hn : IsWord n) (hl : HasFreeNames l)
    (hself : ∀ fields assignable, l = .record fields assignable → ∀ f ∈ fields, f.name ≠ "self") :
    Statement.allFit { owner := some n } false (fixedStatements l) = areDistinct n l := by
  cases l with
  | record fields assignable =>
    have hspell : ∀ f ∈ fields, Block.Context.spell { owner := some n } f.name = PrivateName.spell n f.name := by
      intro f hf
      simp only [Block.Context.spell, hn.plain_eq, (hl f hf).1.word.plain_eq]
    have hnames : (("self" :: fields.map (·.name)).map (Block.Context.spell { owner := some n })).Nodup ↔
        (fields.map fun f => PrivateName.spell n f.name).Nodup := by
      have hmap : (fields.map (·.name)).map (Block.Context.spell { owner := some n }) =
          fields.map fun f => PrivateName.spell n f.name := by
        rw [List.map_map]
        exact List.map_congr_left hspell
      rw [List.map_cons, hmap, spell_parameter (by decide), List.nodup_cons]
      refine and_iff_right fun hmem => ?_
      obtain ⟨f, hf, he⟩ := List.mem_map.mp hmem
      exact hself fields assignable rfl f hf (PrivateName.eq_of_spell_eq (by decide) he)
    have hdistinct : decide (("self" :: fields.map (·.name)).map (Block.Context.spell { owner := some n })).Nodup =
        areDistinct n (.record fields assignable) := decide_eq_decide.mpr hnames
    have hrepr : (Statement.block (.function false ["self"]) .result []).fits { owner := some n } false = true := by
      simp [Statement.fits, Statement.allFit, Header.fits, Header.inside]
    rw [fixedStatements, Statement.allFit, fits_function, List.map_const', allFit_plain, Statement.allFit, hrepr, hdistinct]
    simp [Statement.fits, Statement.allFit]
  | sum variants payload =>
    have hself : ∀ k, Block.Context.spell k "self" = "self" := fun k => spell_parameter (by decide)
    have hpayload : ∀ k, Block.Context.spell k "payload" = "payload" := fun k => spell_parameter (by decide)
    have hother : ∀ k, Block.Context.spell k "other" = "other" := fun k => spell_parameter (by decide)
    simp [fixedStatements, Statement.allFit_append, Statement.allFit, allFit_plain, allFit_checks, Statement.fits,
      Header.fits, Header.inside, hself, hpayload, hother, areDistinct]

theorem allFit_body {roles : List Applied} {fs : List Fragment} (h : Outline d c roles fs p)
    (hc : HasNames c) (hn : p.name = c.name) (hself : ∀ f ∈ c.fields, f.name ≠ "self") :
    Statement.allFit { owner := some p.name } false (bodyStatements p) = areDistinct p.name p.layout := by
  have hmembers : Statement.allFit { owner := some p.name } false
      ((p.layout.members ++ p.supplied).flatMap memberStatements) = true := by
    rw [Statement.allFit_eq, List.all_flatMap]
    refine List.all_eq_true.mpr fun m hm => ?_
    rw [← Statement.allFit_eq]
    exact allFit_member (h.derives m hm)
  have hfixed : Statement.allFit { owner := some p.name } false (fixedStatements p.layout) = areDistinct p.name p.layout := by
    refine allFit_fixed (hn ▸ hc.name.word) (hasFreeNames h hc) ?_
    rintro fields assignable hl f hf
    rcases h.layout_cases with ⟨assignable', hl', -⟩ | ⟨payload, hl', -⟩
    · rw [hl] at hl'
      cases hl'
      exact hself f hf
    · rw [hl] at hl'
      cases hl'
  rw [bodyStatements, Statement.allFit_append, hfixed, hmembers, Bool.and_true]

end DomainModel.Target
