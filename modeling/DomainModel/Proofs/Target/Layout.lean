import DomainModel.Proofs.Target.Member

/-!
# Layouts in modules

The statements that the layout of a class makes at the start of its body, and when they can be read.
-/

namespace DomainModel.Target

open Live.Loading Scanner

variable {n : String} {p q : Bool}

theorem placed_repr : Placed "def __repr__(self) -> str:" true ⟨4, .function, ["self"]⟩ :=
  placed_fixed 0 "def __repr__(self) -> str:" (fun _ => rfl) rfl (by decide)

theorem Placed.block {s : String} {l : Line} (h : Placed s p l) : Reads (textLines [ClassPlan.shifted s]) (p = true) [l] := by
  have hblock : ClassPlan.block [s] = s := by simp [ClassPlan.block]
  have hread := (Sources.nil.cons h).block fun t ht => by rw [List.mem_singleton.mp ht]; exact h.code
  rw [hblock, Bool.and_true] at hread
  exact hread

/-! ## Records -/

def storingLine (f : Field) : String := "    self." ++ slot f.name ++ " = " ++ f.name

theorem placed_storing {f : Field} (hf : IsFree f.name) :
    Placed (storingLine f) (isBindable (slot f.name)) ⟨8, .plain, []⟩ := by
  have hself : IsFree "self" := by decide
  have hinline := hf.word.isInline
  have hslot := hf.slot.word.isInline
  exact (makes_assign hself hf.slot hf).placed (j := 4) (by simp [storingLine]) (by simp +decide [storingLine, hinline, hslot])

section
variable {fields : List Field} (h : ∀ f ∈ fields, IsFree f.name)
include h

theorem reads_slots :
    Reads (textLines [ClassPlan.shifted (ClassPlan.slotsLine (fields.map fun f => slot f.name))]) (true = true)
      (Statement.allLines 4 [.plain]) := by
  have hwords : ∀ n ∈ fields.map fun f => slot f.name, IsWord n := by
    intro n hn
    obtain ⟨f, hf, rfl⟩ := List.mem_map.mp hn
    exact (h f hf).slot.word
  have hinline : IsInline (ClassPlan.slotsLine (fields.map fun f => slot f.name)) := by
    rw [ClassPlan.slotsLine, isInline_append]
    exact ⟨by decide, isInline_tuple fun n hn => (hwords n hn).isInline⟩
  have hplaced : Placed (ClassPlan.slotsLine (fields.map fun f => slot f.name)) true ⟨4, .plain, []⟩ :=
    (makes_slots hwords).placed (j := 0) (by simp) hinline
  exact hplaced.block

theorem reads_recordInit (ht : ∀ f ∈ fields, HasWords f.type ∧ IsInline f.type.annotation) :
    Reads (textLines [ClassPlan.shifted (ClassPlan.recordInit fields)])
      ((fields.all isReadableField && fields.all fun f => isBindable (slot f.name)) = true) (Statement.allLines 4
        [.block (.function false ("self" :: fields.map (·.name))) .plain (fields.tail.map fun _ => .plain)]) := by
  cases fields with
  | nil =>
    have hhead : Placed "def __init__(self) -> None:" true ⟨4, .function, ["self"]⟩ :=
      placed_fixed 0 "def __init__(self) -> None:" (fun _ => rfl) rfl (by decide)
    have hpass : Placed "    pass" true ⟨8, .plain, []⟩ := placed_fixed 4 "pass" (fun _ => rfl) rfl (by decide)
    exact ((Sources.nil.cons hpass).cons hhead).block (by simp [hhead.code, hpass.code])
  | cons f fs =>
    have hinit : IsFree "__init__" := by decide
    have hhead : ∀ ps : String, ps.toList = fieldsText (f :: fs) → IsInline ps →
        Placed ("def __init__(self, *, " ++ ps ++ ") -> None:")
          (isBindable "__init__" && ((f :: fs).all isReadableField && true))
          ⟨4, .function, "self" :: (f :: fs).map (·.name)⟩ := by
      intro ps hps hinline
      exact (makes_function hinit (isParameters_fields f fs fun g hg => ⟨h g hg, (ht g hg).1⟩) isExpression_none).placed
        (j := 0) (by simp [hps]) (by simp +decide [hinline])
    have hplaced := hhead (", ".intercalate ((f :: fs).map fun f => f.name ++ ": " ++ f.type.annotation)) (by
      rw [List.map_cons, toList_intercalate_cons, fieldsText, List.flatMap_map]
      simp [fieldText]) (isInline_intercalate (by decide) fun s hs => by
        obtain ⟨g, hg, rfl⟩ := List.mem_map.mp hs
        simp +decide [(h g hg).word.isInline, (ht g hg).2])
    have hstoring : ∀ gs : List Field, (∀ g ∈ gs, IsFree g.name) → Sources (gs.map storingLine)
        (gs.all fun f => isBindable (slot f.name)) (Statement.allLines 8 (gs.map fun _ => .plain)) := by
      intro gs hgs
      induction gs with
      | nil => exact .nil
      | cons g gs ih =>
        exact (ih fun x hx => hgs x (List.mem_cons_of_mem _ hx)).cons (placed_storing (hgs g List.mem_cons_self))
    have hsources := (hstoring (f :: fs) h).cons hplaced
    have hcode : ∀ s ∈ (f :: fs).map storingLine, IsCode s := by
      intro s hs
      obtain ⟨g, hg, rfl⟩ := List.mem_map.mp hs
      exact (placed_storing (h g hg)).code
    have hblock := hsources.block (List.forall_mem_cons.mpr ⟨hplaced.code, hcode⟩)
    rw [ClassPlan.recordInit, if_neg (by simp), Statement.allLines, Statement.lines, Statement.allLines, List.append_nil]
    exact Reads.congr hblock (by simp +decide)

theorem reads_recordRepr (hn : IsFree n) :
    Reads (textLines [ClassPlan.shifted (ClassPlan.recordRepr n fields)]) (true = true)
      (Statement.allLines 4 [.block (.function false ["self"]) .result []]) := by
  have hinline : IsInline (", ".intercalate (fields.map shownField)) := by
    refine isInline_intercalate (by decide) fun s hs => ?_
    obtain ⟨f, hf, rfl⟩ := List.mem_map.mp hs
    simp +decide [shownField, (h f hf).word.isInline, (h f hf).slot.word.isInline]
  have hhead := placed_repr
  have hreturn : Placed ("    return f\"" ++ n ++ "(" ++ ", ".intercalate (fields.map shownField) ++ ")\"") true
      ⟨8, .result, []⟩ :=
    (makes_return_shown hn h).placed (j := 4) (by simp) (by simp +decide [hn.word.isInline, hinline])
  exact ((Sources.nil.cons hreturn).cons hhead).block (by simp [hhead.code, hreturn.code])

end

/-! ## Sums -/

theorem isFree_contract (c : Contract) : IsFree c.text := by
  cases c <;> decide

theorem code_payloadCheck (c : Contract) : ∀ s ∈ ClassPlan.payloadCheck c, IsCode s := by
  have hinline := (isFree_contract c).word.isInline
  rw [ClassPlan.payloadCheck]
  simp only [List.forall_mem_cons]
  exact ⟨⟨by simp +decide [hinline], 'i', by simp, by decide⟩, by decide,
    ⟨by simp +decide [hinline], 'f', by simp, by decide⟩, by decide, by decide, by simp⟩

/-- The check of a payload calls an error over several lines, which are one as far as the brackets reach. -/
theorem sources_payloadCheck (c : Contract) :
    Sources (ClassPlan.payloadCheck c) true (Statement.allLines 8 [.block .branch .plain []]) := by
  have hstart : ({} : Scanner).run "        if not isinstance(payload, ".toList =
      some ⟨.code, [.round], ⟨⟨8, .branch, []⟩, [.arguments, .trail, .operators, .exactly .colon]⟩, []⟩ := by rfl
  have hname : ∀ cs, resume (emit ⟨.code, [.round], ⟨⟨8, .branch, []⟩,
      [.arguments, .trail, .operators, .exactly .colon]⟩, []⟩ (.name c.text)) (")".toList ++ cs) =
        run ⟨.code, [], ⟨⟨8, .branch, []⟩, [.trail, .operators, .exactly .colon]⟩, []⟩ cs := fun cs => by simp
  have hraise : run ⟨.code, [], ⟨⟨8, .branch, []⟩, [.trail, .operators, .exactly .colon]⟩, []⟩
      ":\n            raise TypeError(\n                f\"\x7btype(self).__qualname__\x7d payload must be a ".toList =
        some ⟨.formatted false, [.round], ⟨⟨12, .plain, []⟩,
          [.format, .texts, .trail, .operators, .moreArguments, .trail, .operators]⟩, [⟨8, .branch, []⟩]⟩ := by
    decide +kernel
  have hend : run ⟨.formatted false, [.round], ⟨⟨12, .plain, []⟩,
      [.format, .texts, .trail, .operators, .moreArguments, .trail, .operators]⟩, [⟨8, .branch, []⟩]⟩
        ", \"\n                f\"got \x7btype(payload).__name__\x7d\"\n            )\n".toList =
          some { lines := [⟨8, .branch, []⟩, ⟨12, .plain, []⟩] } := by rfl
  have htext : linesText ((ClassPlan.payloadCheck c).flatMap placeLine) =
      "        if not isinstance(payload, ".toList ++ (c.text.toList ++ (")".toList ++
        (":\n            raise TypeError(\n                f\"\x7btype(self).__qualname__\x7d payload must be a ".toList ++
          (c.text.toList ++
            ", \"\n                f\"got \x7btype(payload).__name__\x7d\"\n            )\n".toList)))) := by
    rw [List.flatMap_congr fun s hs => (code_payloadCheck c s hs).placeLine_eq]
    simp [ClassPlan.payloadCheck, linesText, Lines.margin]
  have hfree := isFree_contract c
  refine (Reads.of_run ?_).congr (by simp)
  rw [htext, run_append_of hstart, run_free hfree (endsWord_append (by decide) _), hname, run_append_of hraise,
    run_formatted hfree.word.isInert hfree.word.ne_nil, hend]
  rfl

section
variable {variants : List Variant} (hv : ∀ v ∈ variants, IsFree v.name)
include hv

theorem reads_sumHeader (hn : IsFree n) :
    Reads (textLines [ClassPlan.shifted (ClassPlan.sumHeader n variants)]) ((variants.all fun v => isBindable v.name) = true)
      (Statement.allLines 4 ([Statement.plain, .plain, .plain] ++ variants.map fun _ => Statement.plain)) := by
  have hwords : ∀ m ∈ variants.map (·.name), IsWord m := by
    intro m hm
    obtain ⟨v, hmem, rfl⟩ := List.mem_map.mp hm
    exact (hv v hmem).word
  have hinline : IsInline (ClassPlan.tuple (variants.map (·.name))) := isInline_tuple fun m hm => (hwords m hm).isInline
  have hslots : Placed (ClassPlan.slotsLine ["_payload"]) true ⟨4, .plain, []⟩ :=
    placed_fixed 0 "__slots__ = (\"_payload\",)" (fun _ => rfl) rfl (by decide)
  have hmatch : Placed "__match_args__ = (\"payload\",)" true ⟨4, .plain, []⟩ :=
    placed_fixed 0 "__match_args__ = (\"payload\",)" (fun _ => rfl) rfl (by decide)
  have hnames : Placed ("variants: ClassVar[tuple[str, ...]] = " ++ ClassPlan.tuple (variants.map (·.name))) true
      ⟨4, .plain, []⟩ :=
    (makes_variants hwords).placed (j := 0) (by simp) (by simp +decide [hinline])
  have hclass : ∀ v ∈ variants, Placed (v.name ++ ": ClassVar[type[" ++ n ++ "]]") (isBindable v.name) ⟨4, .plain, []⟩ :=
    fun v hmem => (makes_variant (hv v hmem) hn).placed (j := 0) (by simp)
      (by simp +decide [(hv v hmem).word.isInline, hn.word.isInline])
  have hclasses : Sources (variants.map fun v => v.name ++ ": ClassVar[type[" ++ n ++ "]]")
      (variants.all fun v => isBindable v.name) (variants.flatMap fun _ => [⟨4, .plain, []⟩]) := by
    rw [List.map_eq_flatMap]
    refine .flatMap fun v hmem => ?_
    have hsources := Sources.nil.cons (hclass v hmem)
    rw [Bool.and_true] at hsources
    exact hsources
  have hcode : ∀ s ∈ variants.map fun v => v.name ++ ": ClassVar[type[" ++ n ++ "]]", IsCode s := by
    intro s hs
    obtain ⟨v, hmem, rfl⟩ := List.mem_map.mp hs
    exact (hclass v hmem).code
  have hsources := ((hclasses.cons hnames).cons hmatch).cons hslots
  rw [Statement.allLines_eq, List.flatMap_append, List.flatMap_map]
  refine Reads.congr (hsources.block ?_) (by simp)
  simp only [List.forall_mem_cons]
  exact ⟨hslots.code, hmatch.code, hnames.code, hcode⟩

end

/-- What a sum does with its payload before it is stored. -/
def checks (payload : Option Contract) : List Statement := payload.toList.map fun _ => .block .branch .plain []

section
variable {variants : List Variant} (hp : ∀ v ∈ variants, HasWords v.payload)
  (hu : IsInline (ClassPlan.payloadUnion variants))
include hp hu

theorem reads_sumInit (hn : IsFree n) (payload : Option Contract) :
    Reads (textLines [ClassPlan.shifted (ClassPlan.sumInit n variants payload)])
      (areReadableAlternatives (variants.map (·.payload)) = true) (Statement.allLines 4
        [.block (.function false ["self", "payload"]) (.block .branch .plain []) (checks payload ++ [Statement.plain])]) := by
  have hself : IsFree "self" := by decide
  have hpayload : IsFree "payload" := by decide
  have hinit : IsFree "__init__" := by decide
  have hhead : Placed ("def __init__(self, payload: " ++ ClassPlan.payloadUnion variants ++ ") -> None:")
      (isBindable "__init__" && (isBindable "payload" && areReadableAlternatives (variants.map (·.payload)) && true))
      ⟨4, .function, ["self", "payload"]⟩ :=
    (makes_function hinit (isParameters_typed hself (by decide) hpayload (isExpression_union hp)) isExpression_none).placed
      (j := 0) (by simp) (by simp +decide [hu])
  have hif : Placed ("    if type(self) is " ++ n ++ ":") true ⟨8, .branch, []⟩ :=
    (makes_if_type hn).placed (j := 4) (by simp) (by simp +decide [hn.word.isInline])
  have hinert : Scanner.IsInert (n ++ " must be constructed through one of its variants").toList := by
    rw [String.toList_append]
    exact hn.word.isInert.append (isInert_of_all (by decide))
  have hraise : Placed ("        raise TypeError(\"" ++ n ++ " must be constructed through one of its variants\")") true
      ⟨12, .plain, []⟩ :=
    (makes_raise_text hinert (by simp)).placed (j := 8) (by simp) (by simp +decide [hn.word.isInline])
  have hstore : Placed "    self._payload = payload" true ⟨8, .plain, []⟩ :=
    placed_fixed 4 "self._payload = payload" (fun _ => rfl) rfl (by decide)
  have hchecks : Sources (payload.toList.flatMap ClassPlan.payloadCheck) true (Statement.allLines 8 (checks payload)) := by
    cases payload with
    | none => exact .nil
    | some c => simpa [checks] using sources_payloadCheck c
  have hcode : ∀ s ∈ payload.toList.flatMap ClassPlan.payloadCheck, IsCode s := by
    cases payload with
    | none => simp
    | some c => simpa using code_payloadCheck c
  have hsources := (((hchecks.append (Sources.nil.cons hstore)).cons hraise).cons hif).cons hhead
  have hblock := hsources.block (by
    simp only [List.forall_mem_cons, List.forall_mem_append]
    exact ⟨hhead.code, hif.code, hraise.code, hcode, hstore.code, by simp⟩)
  rw [Statement.allLines, Statement.lines, Statement.allLines_append, Statement.allLines, List.append_nil]
  exact Reads.congr hblock (by simp +decide)

theorem reads_sumPayload :
    Reads (textLines [ClassPlan.shifted (ClassPlan.sumPayload variants)])
      (areReadableAlternatives (variants.map (·.payload)) = true)
      (Statement.allLines 4 [.block (.function true ["self"]) .result []]) := by
  have hpayload : IsFree "payload" := by decide
  have hhead := placed_accessor hpayload (isExpression_union hp) hu
  have hreturn : Placed "    return self._payload" true ⟨8, .result, []⟩ :=
    placed_fixed 4 "return self._payload" (fun _ => rfl) rfl (by decide)
  have hsources := ((Sources.nil.cons hreturn).cons hhead).cons placed_property
  exact Reads.congr (hsources.block (by simp [placed_property.code, hreturn.code]; exact hhead.code)) (by simp +decide)

end

theorem reads_sumRepr : Reads (textLines [ClassPlan.shifted ClassPlan.sumRepr]) (true = true)
    (Statement.allLines 4 [.block (.function false ["self"]) .result []]) := by
  have hhead := placed_repr
  have hreturn : Placed "    return f\"\x7btype(self).__qualname__\x7d(\x7bself._payload!r\x7d)\"" true ⟨8, .result, []⟩ :=
    placed_fixed 4 "return f\"\x7btype(self).__qualname__\x7d(\x7bself._payload!r\x7d)\"" (fun _ => rfl) rfl (by decide)
  exact ((Sources.nil.cons hreturn).cons hhead).block (by simp [hhead.code, hreturn.code])

theorem reads_sumEquality : Reads (textLines [ClassPlan.shifted ClassPlan.sumEquality]) (true = true)
    (Statement.allLines 4 [.block (.function false ["self", "other"]) (.block .branch .result []) [.result]]) := by
  have hhead : Placed "def __eq__(self, other: object) -> bool:" true ⟨4, .function, ["self", "other"]⟩ :=
    placed_fixed 0 "def __eq__(self, other: object) -> bool:" (fun _ => rfl) rfl (by decide)
  have hif : Placed "    if type(other) is not type(self):" true ⟨8, .branch, []⟩ :=
    placed_fixed 4 "if type(other) is not type(self):" (fun _ => rfl) rfl (by decide)
  have hundecided : Placed "        return NotImplemented" true ⟨12, .result, []⟩ :=
    placed_fixed 8 "return NotImplemented" (fun _ => rfl) rfl (by decide)
  have hreturn : Placed "    return self._payload == other._payload" true ⟨8, .result, []⟩ :=
    placed_fixed 4 "return self._payload == other._payload" (fun _ => rfl) rfl (by decide)
  have hsources := (((Sources.nil.cons hreturn).cons hundecided).cons hif).cons hhead
  exact hsources.block (by simp [hhead.code, hif.code, hundecided.code, hreturn.code])

theorem reads_sumHash : Reads (textLines [ClassPlan.shifted ClassPlan.sumHash]) (true = true)
    (Statement.allLines 4 [.block (.function false ["self"]) .result []]) := by
  have hhead : Placed "def __hash__(self) -> int:" true ⟨4, .function, ["self"]⟩ :=
    placed_fixed 0 "def __hash__(self) -> int:" (fun _ => rfl) rfl (by decide)
  have hreturn : Placed "    return hash((type(self).__qualname__, self._payload))" true ⟨8, .result, []⟩ :=
    placed_fixed 4 "return hash((type(self).__qualname__, self._payload))" (fun _ => rfl) rfl (by decide)
  exact ((Sources.nil.cons hreturn).cons hhead).block (by simp [hhead.code, hreturn.code])

/-! ## Layouts -/

/-- Sources that go into the body of a class make statements there exactly if `p` holds. -/
def Embodies (ss : List String) (p : Prop) (sts : List Statement) : Prop :=
  Reads (textLines (ss.map ClassPlan.shifted)) p (Statement.allLines 4 sts)

theorem Embodies.append_of {ss ss' : List String} {p q : Prop} {sts sts' : List Statement} (h : Embodies ss p sts)
    (h' : p → Embodies ss' q sts') : Embodies (ss ++ ss') (p ∧ q) (sts ++ sts') := by
  rw [Embodies, List.map_append, textLines_append, Statement.allLines_append]
  exact Reads.append_of h h'

theorem Embodies.append {ss ss' : List String} {p q : Prop} {sts sts' : List Statement} (h : Embodies ss p sts)
    (h' : Embodies ss' q sts') : Embodies (ss ++ ss') (p ∧ q) (sts ++ sts') := h.append_of fun _ => h'

/-- The names and types of a layout are made of words, and its names are no reserved words. -/
def HasFreeNames : Layout → Prop
  | .record fields _ => ∀ f ∈ fields, IsFree f.name ∧ HasWords f.type
  | .sum variants _ => ∀ v ∈ variants, IsFree v.name ∧ HasWords v.payload

def canRead : Layout → Bool
  | .record fields _ => fields.all isReadableField && fields.all fun f => isBindable (slot f.name)
  | .sum variants _ => areReadableAlternatives (variants.map (·.payload)) && variants.all fun v => isBindable v.name

/-- What a layout starts with, behind the slots of the class. -/
def fixedStatements : Layout → List Statement
  | .record fields _ =>
    [.block (.function false ("self" :: fields.map (·.name))) .plain (fields.tail.map fun _ => .plain),
     .block (.function false ["self"]) .result []]
  | .sum variants payload =>
    [.plain, .plain] ++ (variants.map fun _ => .plain) ++
      [.block (.function false ["self", "payload"]) (.block .branch .plain []) (checks payload ++ [.plain]),
       .block (.function true ["self"]) .result [],
       .block (.function false ["self"]) .result [],
       .block (.function false ["self", "other"]) (.block .branch .result []) [.result],
       .block (.function false ["self"]) .result []]

theorem embodies_fixed {n : String} {l : Layout} (hn : IsFree n) (hl : HasFreeNames l) :
    Embodies (l.fixed n) (canRead l = true) (.plain :: fixedStatements l) := by
  cases l with
  | record fields assignable =>
    have hnames : ∀ f ∈ fields, IsFree f.name := fun f hf => (hl f hf).1
    have hslots : Embodies [_] _ _ := reads_slots hnames
    have hinit : Embodies [_] _ _ := reads_recordInit hnames fun f hf => ⟨(hl f hf).2, isInline_typeText (hl f hf).2⟩
    have hrepr : Embodies [_] _ _ := reads_recordRepr hnames hn
    exact Reads.congr (hslots.append (hinit.append hrepr)) (by simp [canRead])
  | sum variants payload =>
    have hnames : ∀ v ∈ variants, IsFree v.name := fun v hv => (hl v hv).1
    have hwords : ∀ v ∈ variants, HasWords v.payload := fun v hv => (hl v hv).2
    have hunion := isInline_payloadUnion hwords
    have hheader : Embodies [_] _ _ := reads_sumHeader hnames hn
    have hinit : Embodies [_] _ _ := reads_sumInit hwords hunion hn payload
    have hpayload : Embodies [_] _ _ := reads_sumPayload hwords hunion
    have hrepr : Embodies [_] _ _ := reads_sumRepr
    have hequality : Embodies [_] _ _ := reads_sumEquality
    have hhash : Embodies [_] _ _ := reads_sumHash
    exact Reads.congr (hheader.append (hinit.append (hpayload.append (hrepr.append (hequality.append hhash)))))
      (by simp only [canRead, Bool.and_eq_true]; tauto)

end DomainModel.Target
