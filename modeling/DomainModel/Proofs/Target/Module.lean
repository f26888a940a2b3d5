import DomainModel.Proofs.Generation.Stages
import DomainModel.Proofs.Target.Class

/-!
# Generated modules

The statements of a generated module. `isModule_iff` says when its text is one: exactly if the module is found readable
before it is loaded.
-/

namespace DomainModel.Target

open Live.Loading

variable {p : ClassPlan} {n : String} {b : Bool}

/-! ## Lines at the margin -/

theorem Makes.texts {s : String} {cs : List Char} {f : Form} {ns : List String} {k : Nat} (h : Makes cs b f ns)
    (htext : s.toList = List.replicate k ' ' ++ cs) (hs : IsUnbroken s) : Reads (textLines [s]) (b = true) [⟨k, f, ns⟩] := by
  rw [hs.textLines_eq]
  exact h.reads htext

theorem IsInline.isUnbroken {s : String} (h : IsInline s) : IsUnbroken s :=
  fun c hc => not_isBreak_of_isInline (List.all_eq_true.mp h c hc)

theorem reads_empty : Reads (textLines [""]) True [] := .of_run rfl

theorem Reads.texts {ss ss' : List String} {p q : Prop} {ls ls' : List Line} (h : Reads (textLines ss) p ls)
    (h' : Reads (textLines ss') q ls') : Reads (textLines (ss ++ ss')) (p ∧ q) (ls ++ ls') := by
  rw [textLines_append]
  exact h.append h'

theorem reads_docLines (docs : List String) : Reads (textLines (ClassPlan.docLines docs)) True (documentation 4 docs) := by
  rw [ClassPlan.docLines, documentation]
  by_cases hdocs : docs.isEmpty
  · rw [if_pos hdocs, if_pos hdocs]
    exact .nil
  · rw [if_neg hdocs, if_neg hdocs]
    have hne : docs.map String.toList ≠ [] := by simpa using hdocs
    rw [textLines_docLines hne]
    exact ((reads_docstring (isPlainDocstring_encode hne)).append reads_empty).congr (by simp)

/-! ## Classes -/

def classStatement (p : ClassPlan) : Statement := Header.documented (.cls p.name) p.docs .plain (bodyStatements p)

/-- The class of a variant, which gets its names and becomes an attribute of the sum. -/
def variantStatements (n : String) (v : Variant) : List Statement :=
  [Header.documented (.cls (ClassPlan.variantClass n v)) v.docs .plain [.block (.function false ["self", "payload"]) .plain []],
   .plain, .plain, .plain]

def planStatements (p : ClassPlan) : List Statement := classStatement p :: p.variants.flatMap (variantStatements p.name)

def isReadableVariant (n : String) (v : Variant) : Bool :=
  isBindable (ClassPlan.variantClass n v) && isReadableType v.payload && isBindable v.name

theorem reads_variant {v : Variant} (hn : IsFree n) (hv : IsFree v.name) (ht : HasWords v.payload) :
    Reads (textLines (ClassPlan.variantLines n v)) (isReadableVariant n v = true)
      (Statement.allLines 0 (variantStatements n v)) := by
  have hown := hn.variantClass hv
  have hself : IsFree "self" := by decide
  have hpayload : IsFree "payload" := by decide
  have hinit : IsFree "__init__" := by decide
  have hname : IsFree "__name__" := by decide
  have hqualname : IsFree "__qualname__" := by decide
  have hi := isInline_typeText ht
  have hbases : ∀ m ∈ [n], IsFree m := by simpa using hn
  have hhead : Reads (textLines ["class " ++ ClassPlan.variantClass n v ++ "(" ++ n ++ "):"])
      (isBindable (ClassPlan.variantClass n v) = true) [⟨0, .cls, [ClassPlan.variantClass n v]⟩] :=
    (makes_class hown hbases).texts (k := 0) (by simp)
      (IsInline.isUnbroken (by simp +decide [hown.word.isInline, hn.word.isInline]))
  have hslots : Reads (textLines ["    __slots__ = ()", ""]) True [⟨4, .plain, []⟩] := .of_run (by decide +kernel)
  have hfunction : Reads (textLines ["    def __init__(self, payload: " ++ v.payload.annotation ++ ") -> None:"])
      ((isBindable "__init__" && (isBindable "payload" && isReadableType v.payload && true)) = true)
      [⟨4, .function, ["self", "payload"]⟩] :=
    (makes_function hinit (isParameters_typed hself (by decide) hpayload (isExpression_typeText ht))
      isExpression_none).texts (k := 4) (by simp) (IsInline.isUnbroken (by simp +decide [hi]))
  have hsuper : Reads (textLines ["        super().__init__(payload)", "", ""]) True [⟨8, .plain, []⟩] :=
    .of_run (by decide +kernel)
  have hassigned : Reads (textLines [ClassPlan.variantClass n v ++ ".__name__ = \"" ++ v.name ++ "\""])
      (isBindable "__name__" = true) [⟨0, .plain, []⟩] :=
    (makes_assign_text hown hname hv.word.isInert hv.word.ne_nil).texts (k := 0) (by simp)
      (IsInline.isUnbroken (by simp +decide [hown.word.isInline, hv.word.isInline]))
  have hplace : Scanner.IsInert (n ++ "." ++ v.name).toList := by
    rw [String.toList_append, String.toList_append]
    exact (hn.word.isInert.append (isInert_of_all (by decide))).append hv.word.isInert
  have hqualified : Reads (textLines [ClassPlan.variantClass n v ++ ".__qualname__ = \"" ++ n ++ "." ++ v.name ++ "\""])
      (isBindable "__qualname__" = true) [⟨0, .plain, []⟩] :=
    (makes_assign_text hown hqualname hplace (by simp)).texts (k := 0) (by simp)
      (IsInline.isUnbroken (by simp +decide [hown.word.isInline, hn.word.isInline, hv.word.isInline]))
  have hattribute : Reads (textLines [n ++ "." ++ v.name ++ " = " ++ ClassPlan.variantClass n v])
      (isBindable v.name = true) [⟨0, .plain, []⟩] :=
    (makes_assign hn hv hown).texts (k := 0) (by simp)
      (IsInline.isUnbroken (by simp +decide [hown.word.isInline, hn.word.isInline, hv.word.isInline]))
  -- the lines of the class, then the three that name it and attach it
  have hbody := hslots.texts (hfunction.texts hsuper)
  have hclass := (hhead.texts (reads_docLines v.docs)).texts (hbody.texts (hassigned.texts (hqualified.texts hattribute)))
  have hlines : Statement.allLines 0 (variantStatements n v) =
      [⟨0, .cls, [ClassPlan.variantClass n v]⟩] ++ documentation 4 v.docs ++
        ([⟨4, .plain, []⟩] ++ ([⟨4, .function, ["self", "payload"]⟩] ++ [⟨8, .plain, []⟩]) ++
          ([⟨0, .plain, []⟩] ++ ([⟨0, .plain, []⟩] ++ [⟨0, .plain, []⟩]))) := by
    rw [variantStatements, Statement.allLines, lines_documented]
    simp [Statement.allLines, Statement.lines, Header.lines, Header.isDecorated, Header.form, Header.names]
  rw [hlines]
  exact Reads.congr hclass (by simp +decide [isReadableVariant, and_assoc])

theorem fits_variant (n : String) (v : Variant) : Statement.allFit {} false (variantStatements n v) = true := by
  have hself : ∀ k, Block.Context.spell k "self" = "self" := fun k => spell_parameter (by decide)
  have hpayload : ∀ k, Block.Context.spell k "payload" = "payload" := fun k => spell_parameter (by decide)
  rw [variantStatements, Statement.allFit, fits_documented _ _ _ _ _ _ rfl]
  simp [Statement.allFit, Statement.fits, Header.fits, Header.inside, hself, hpayload]

/-! ## Plans -/

theorem reads_headLine (hn : IsFree p.name) :
    Reads (textLines [p.headLine]) (isBindable p.name = true) [⟨0, .cls, [p.name]⟩] := by
  have hbases : ∀ t ∈ p.bases.map (·.text), IsFree t := by
    intro t ht
    obtain ⟨b, -, rfl⟩ := List.mem_map.mp ht
    exact isFree_contract b
  have htext : p.headLine = (Headline.cls p.name p.bases).text := by rfl
  refine (makes_class hn hbases).texts (k := 0) ?_ (htext ▸ Headline.isUnbroken (l := .cls p.name p.bases) hn.word)
  simp [ClassPlan.headLine]

/-- What is known of the plan of a declaration that has been read. -/
structure IsSound (p : ClassPlan) : Prop where
  name : IsFree p.name
  variants : ∀ v ∈ p.variants, IsFree v.name ∧ HasWords v.payload
  body : Embodies p.body (canRead p.layout = true ∧ ∀ m ∈ p.layout.members ++ p.supplied, isReadableMember m = true)
    (.plain :: bodyStatements p)
  fits : Statement.allFit { owner := some p.name } false (bodyStatements p) = areDistinct p.name p.layout
  errors : ∀ e ∈ p.errors, e = .ofOwner p.name
  events : ∀ e ∈ p.events, Identifier.isIdentifier e = true

/-- No line of a class, nor of those of its variants, has a word in it that cannot stand there. -/
def IsLegible (p : ClassPlan) : Prop :=
  isBindable p.name = true ∧
    (canRead p.layout = true ∧ ∀ m ∈ p.layout.members ++ p.supplied, isReadableMember m = true) ∧
    ∀ v ∈ p.variants, isReadableVariant p.name v = true

namespace IsSound

theorem reads (h : IsSound p) : Reads (textLines p.lines) (IsLegible p) (Statement.allLines 0 (planStatements p)) := by
  have hvariants : Reads (textLines (p.variants.flatMap (ClassPlan.variantLines p.name)))
      (∀ v ∈ p.variants, isReadableVariant p.name v = true)
      (p.variants.flatMap fun v => Statement.allLines 0 (variantStatements p.name v)) := by
    rw [textLines, List.flatMap_assoc]
    exact .flatMap fun v hv => reads_variant h.name (h.variants v hv).1 (h.variants v hv).2
  have hbody : Reads (textLines (p.body.map ClassPlan.shifted)) _ (Statement.allLines 4 (.plain :: bodyStatements p)) := h.body
  have hlines := (((reads_headLine h.name).texts (reads_docLines p.docs)).texts hbody).texts hvariants
  have hstatements : Statement.allLines 0 (planStatements p) = [⟨0, .cls, [p.name]⟩] ++ documentation 4 p.docs ++
      Statement.allLines 4 (.plain :: bodyStatements p) ++
        p.variants.flatMap fun v => Statement.allLines 0 (variantStatements p.name v) := by
    rw [planStatements, Statement.allLines, classStatement, lines_documented, Statement.allLines_eq 0, List.flatMap_assoc]
    simp [Header.lines, Header.isDecorated, Header.form, Header.names, Statement.allLines_eq]
  rw [hstatements]
  exact Reads.congr hlines (by simp only [IsLegible, and_true, and_assoc])

/-- The statements of a class fit if the parameters of its construction are different. -/
theorem allFit (h : IsSound p) : Statement.allFit {} false (planStatements p) = areDistinct p.name p.layout := by
  have hvariants : Statement.allFit {} false (p.variants.flatMap (variantStatements p.name)) = true := by
    rw [Statement.allFit_eq, List.all_flatMap]
    refine List.all_eq_true.mpr fun v _ => ?_
    rw [← Statement.allFit_eq]
    exact fits_variant p.name v
  rw [planStatements, Statement.allFit, hvariants, Bool.and_true, classStatement, fits_documented _ _ _ _ _ _ rfl,
    Statement.fits, Header.inside, h.fits]
  rfl

end IsSound

/-! ## Readable plans -/

theorem isReadableLayout_iff : isReadableLayout n p.layout = true ↔
    canRead p.layout = true ∧ areDistinct n p.layout = true ∧ ∀ v ∈ p.variants, isReadableVariant n v = true := by
  rw [ClassPlan.variants]
  cases p.layout with
  | record fields assignable =>
    simp only [isReadableLayout, canRead, areDistinct, areReadableTypes_eq, isReadableField, List.all_map, Bool.and_eq_true,
      List.all_eq_true, decide_eq_true_eq, Function.comp_apply, forall_and]
    tauto
  | sum variants payload =>
    simp only [isReadableLayout, canRead, areDistinct, areReadableAlternatives, areReadableTypes_eq, isReadableVariant,
      List.all_map, Bool.and_eq_true, List.all_eq_true, Function.comp_apply, true_and, forall_and]
    tauto

theorem isReadablePlan_iff : isReadablePlan p = true ↔
    IsLegible p ∧ areDistinct p.name p.layout = true ∧ ∀ e ∈ p.events, isReadableName e = true := by
  have hmembers : (∀ m ∈ p.layout.members ++ p.supplied, isReadableMember m = true) ↔
      ∀ m ∈ p.supplied, isReadableMember m = true := by
    rw [List.forall_mem_append]
    refine and_iff_right fun m hm => ?_
    cases hl : p.layout with
    | record fields assignable =>
      rw [hl] at hm
      obtain ⟨f, -, rfl⟩ := List.mem_map.mp hm
      rfl
    | sum variants payload =>
      rw [hl] at hm
      cases hm
  simp only [isReadablePlan, IsLegible, Bool.and_eq_true, isReadableLayout_iff, List.all_eq_true, hmembers]
  tauto

/-! ## What stands around classes -/

theorem reads_error (hn : IsFree n) : Reads (textLines [Member.tidy (ValueError.ofOwner n).source]) True
    (Statement.allLines 0 [.block (.cls (ValueError.ofOwner n).name) .text []]) := by
  have hbases : ∀ t ∈ [Contract.valueValidationError.text], IsFree t := by
    simpa using isFree_contract .valueValidationError
  have hbindable : isBindable (ValueError.ofOwner n).name = true := by
    have hlength : (ValueError.ofOwner n).name.toList.length ≠ "__debug__".toList.length := by
      have hname : (ValueError.ofOwner n).name.toList = n.toList ++ "ValidationError".toList := String.toList_append
      rw [hname, List.length_append]
      simp +decide
    exact decide_eq_true fun he => hlength (by rw [he])
  have hhead : Reads [(Headline.error n).text.toList] (isBindable (ValueError.ofOwner n).name = true)
      [⟨0, .cls, [(ValueError.ofOwner n).name]⟩] :=
    (makes_class hn.errorName hbases).reads (k := 0)
      (by simp [Headline.text, Headline.errorName, ValueError.ofOwner, Contract.text])
  have hdoc : Reads [("    \"\"\"Raised when " ++ n ++ ".validate rejects a value.\"\"\"").toList] True
      [⟨4, .text, []⟩] := by
    refine reads_literal ("Raised when " ++ n ++ ".validate rejects a value.") ?_ ?_ (by simp)
    · simp [linesText, Docstring.quotes, List.replicate_succ]
    · simp +decide [hn.isUnquoted]
  rw [textLines, List.flatMap_singleton, toList_error hn.word, Lines.splitFeeds_append,
    Lines.splitFeeds_of_not_mem (Headline.isUnbroken (l := .error n) hn.word).feed_not_mem,
    Lines.splitFeeds_of_not_mem (isUnbroken_errorDoc hn.word).feed_not_mem]
  exact (hhead.append hdoc).congr (by simp [hbindable])

structure IsSoundSynonym (s : Synonym) : Prop where
  name : IsFree s.name
  annotation : ∃ t, HasWords t ∧ s.annotation = t.annotation

theorem annotation_ne_nil {t : TypeRef} (h : HasWords t) : t.annotation.toList ≠ [] := by
  obtain ⟨name, args⟩ := t
  obtain ⟨w, ws, hw, -, hs⟩ := h.1
  have hname : (TypeRef.targetName name).toList ≠ [] := by
    rw [hs]
    exact List.append_ne_nil_of_left_ne_nil hw.ne_nil _
  cases args with
  | nil => exact hname
  | cons t ts =>
    rw [toList_applied]
    exact List.append_ne_nil_of_left_ne_nil hname _

theorem reads_synonym {s : Synonym} (h : IsSoundSynonym s) :
    Reads (textLines [Module.synonymLine s]) (isBindable s.name = true) [⟨0, .plain, []⟩] := by
  obtain ⟨t, ht, he⟩ := h.annotation
  have hinline := isInline_typeText ht
  rw [Module.synonymLine, he]
  exact (makes_synonym h.name (isInert_typeText ht) (annotation_ne_nil ht)).texts (k := 0) (by simp)
    (IsInline.isUnbroken (by simp +decide [h.name.word.isInline, hinline]))

theorem reads_events {e : String} (hn : IsFree n) (he : Identifier.isIdentifier e = true) :
    Reads (textLines [Fragment.eventsLine n e]) (isReadableName e = true) [⟨0, .plain, []⟩] :=
  (makes_events hn he).texts (k := 0) (by simp)
    (Headline.isUnbroken (l := .events n e) ⟨hn.word, isUnbroken_of_isIdentifier he⟩)

/-! ## Modules -/

/-- The lines of a module before its classes, which import the contracts from a folder. -/
def prelude : List Line :=
  [⟨0, .text, []⟩, ⟨0, .future, []⟩,
   ⟨0, .plain, []⟩, ⟨0, .plain, []⟩, ⟨0, .plain, []⟩, ⟨0, .plain, []⟩, ⟨0, .plain, []⟩,
   ⟨0, .plain, []⟩, ⟨0, .plain, []⟩, ⟨0, .branch, []⟩, ⟨4, .plain, []⟩, ⟨0, .attempt, []⟩, ⟨4, .plain, []⟩,
   ⟨0, .cleanup, []⟩, ⟨4, .branch, []⟩, ⟨8, .plain, []⟩]

theorem reads_headLines {m : Module} (h : m.contracts = defaultContracts) : Reads (textLines m.headLines) True prelude := by
  have hlines : m.headLines = Module.headLines ⟨defaultContracts, [], []⟩ := by
    obtain ⟨contracts, classes, synonyms⟩ := m
    cases h
    rfl
  rw [hlines]
  exact .of_run (by decide +kernel)

def moduleStatements (m : Module) : List Statement :=
  (m.classes.flatMap fun p => p.errors.map fun e => .block (.cls e.name) .text []) ++ m.classes.flatMap planStatements ++
    (m.synonyms.map fun _ => .plain) ++ m.classes.flatMap fun p => p.events.map fun _ => .plain

/-- What is known of a module whose declarations have been read. -/
structure IsSoundModule (m : Module) : Prop where
  contracts : m.contracts = defaultContracts
  classes : ∀ p ∈ m.classes, IsSound p
  synonyms : ∀ s ∈ m.synonyms, IsSoundSynonym s

/-- No line of a module has a word in it that cannot stand there. -/
def IsLegibleModule (m : Module) : Prop :=
  (∀ p ∈ m.classes, IsLegible p) ∧ (∀ s ∈ m.synonyms, isBindable s.name = true) ∧
    ∀ p ∈ m.classes, ∀ e ∈ p.events, isReadableName e = true

namespace IsSoundModule
variable {m : Module}

theorem reads (h : IsSoundModule m) :
    Reads (textLines m.lines) (IsLegibleModule m) (prelude ++ Statement.allLines 0 (moduleStatements m)) := by
  have herrors : Reads (textLines (m.classes.flatMap fun p => p.errors.map fun e => Member.tidy e.source)) True
      (m.classes.flatMap fun p => p.errors.flatMap fun e => Statement.allLines 0 [.block (.cls e.name) .text []]) := by
    rw [textLines, List.flatMap_assoc]
    refine (Reads.flatMap (p := fun _ => True) fun p hp => ?_).congr (by simp)
    rw [List.flatMap_map]
    refine (Reads.flatMap (p := fun _ => True) fun e he => ?_).congr (by simp)
    have herror := reads_error (h.classes p hp).name
    rw [(h.classes p hp).errors e he]
    rw [textLines, List.flatMap_singleton] at herror
    exact herror
  have hclasses : Reads (textLines (m.classes.flatMap ClassPlan.lines)) (∀ p ∈ m.classes, IsLegible p)
      (m.classes.flatMap fun p => Statement.allLines 0 (planStatements p)) := by
    rw [textLines, List.flatMap_assoc]
    exact Reads.flatMap fun p hp => (h.classes p hp).reads
  have hsynonyms : Reads (textLines (m.synonyms.map Module.synonymLine)) (∀ s ∈ m.synonyms, isBindable s.name = true)
      (m.synonyms.flatMap fun _ => [⟨0, .plain, []⟩]) := by
    rw [textLines, List.flatMap_map]
    refine Reads.flatMap fun s hs => ?_
    have hline := reads_synonym (h.synonyms s hs)
    rw [textLines, List.flatMap_singleton] at hline
    exact hline
  have hevents : Reads (textLines (m.classes.flatMap ClassPlan.epilogue))
      (∀ p ∈ m.classes, ∀ e ∈ p.events, isReadableName e = true)
      (m.classes.flatMap fun p => p.events.flatMap fun _ => [⟨0, .plain, []⟩]) := by
    rw [textLines, List.flatMap_assoc]
    refine Reads.flatMap fun p hp => ?_
    rw [ClassPlan.epilogue, List.flatMap_map]
    refine Reads.flatMap fun e he => ?_
    have hline := reads_events (h.classes p hp).name ((h.classes p hp).events e he)
    rw [textLines, List.flatMap_singleton] at hline
    exact hline
  have hlines := ((((reads_headLines h.contracts).texts herrors).texts hclasses).texts hsynonyms).texts hevents
  have hstatements : Statement.allLines 0 (moduleStatements m) =
      (m.classes.flatMap fun p => p.errors.flatMap fun e => Statement.allLines 0 [.block (.cls e.name) .text []]) ++
        (m.classes.flatMap fun p => Statement.allLines 0 (planStatements p)) ++
          (m.synonyms.flatMap fun _ => [⟨0, .plain, []⟩]) ++
          m.classes.flatMap fun p => p.events.flatMap fun _ => [⟨0, .plain, []⟩] := by
    simp only [moduleStatements, Statement.allLines_eq, List.flatMap_append, List.flatMap_assoc, List.flatMap_map,
      List.flatMap_singleton]
    rfl
  rw [hstatements]
  simp only [← List.append_assoc] at hlines ⊢
  exact Reads.congr hlines (by simp only [IsLegibleModule, true_and, and_assoc])

theorem allFit (h : IsSoundModule m) :
    Statement.allFit {} false (moduleStatements m) = m.classes.all fun p => areDistinct p.name p.layout := by
  have herrors : Statement.allFit {} false (m.classes.flatMap fun p => p.errors.map fun e => .block (.cls e.name) .text []) =
      true := by
    rw [Statement.allFit_eq, List.all_flatMap]
    refine List.all_eq_true.mpr fun p _ => ?_
    rw [List.all_map]
    exact List.all_eq_true.mpr fun e _ => rfl
  have hplans : Statement.allFit {} false (m.classes.flatMap planStatements) =
      m.classes.all fun p => areDistinct p.name p.layout := by
    rw [Statement.allFit_eq, List.all_flatMap, Bool.eq_iff_iff, List.all_eq_true, List.all_eq_true]
    refine forall₂_congr fun p hp => ?_
    rw [← Statement.allFit_eq, (h.classes p hp).allFit]
  have hevents : Statement.allFit {} false (m.classes.flatMap fun p => p.events.map fun _ => .plain) = true := by
    rw [Statement.allFit_eq, List.all_flatMap]
    refine List.all_eq_true.mpr fun p _ => ?_
    rw [List.all_map]
    exact List.all_eq_true.mpr fun e _ => rfl
  rw [moduleStatements, Statement.allFit_append, Statement.allFit_append, Statement.allFit_append, herrors, hplans, hevents,
    List.map_const', allFit_plain, Bool.true_and, Bool.and_true, Bool.and_true]

end IsSoundModule

theorem isModule_prelude (ss : List Statement) :
    isModule (prelude ++ Statement.allLines 0 ss) = Statement.allFit {} false ss := by
  obtain ⟨s, hs, hrests⟩ : ∃ s, ({} : Blocks).run (prelude.drop 2) = some s ∧ s.Rests { column := 0 } [] :=
    ⟨_, rfl, rfl, rfl, by decide⟩
  have hhead : afterHead (prelude ++ Statement.allLines 0 ss) = prelude.drop 2 ++ Statement.allLines 0 ss := by rfl
  have hgoes := Blocks.goes_allLines ss { column := 0 } []
  rw [isModule, hhead, Blocks.run_append, hs, Option.bind_some]
  cases hfits : Statement.allFit {} false ss with
  | true =>
    obtain ⟨s', hs', hrests'⟩ := hgoes.runs hfits s hrests
    simp only [hs', decide_eq_true hrests'.isClosed]
  | false => simp only [hgoes.fails hfits s hrests]

theorem linesText_textLines (ss : List String) : linesText (textLines ss) = (Member.ofLines ss).toList := by
  rw [toList_ofLines, textLines, linesText, List.flatMap_assoc]
  refine List.flatMap_congr fun s _ => ?_
  have hlines := linesText_eq (Lines.splitFeeds_ne_nil s.toList)
  rw [Lines.join_splitFeeds] at hlines
  exact hlines

theorem IsSoundModule.isReadableModule_iff {m : Module} (h : IsSoundModule m) :
    isReadableModule m = true ↔ IsLegibleModule m ∧ Statement.allFit {} false (moduleStatements m) = true := by
  simp only [isReadableModule, IsLegibleModule, h.allFit, Bool.and_eq_true, List.all_eq_true, isReadablePlan_iff]
  constructor
  · rintro ⟨hclasses, hsynonyms⟩
    exact ⟨⟨fun p hp => (hclasses p hp).1, hsynonyms, fun p hp => (hclasses p hp).2.2⟩, fun p hp => (hclasses p hp).2.1⟩
  · rintro ⟨⟨hclasses, hsynonyms, hevents⟩, hdistinct⟩
    exact ⟨fun p hp => ⟨hclasses p hp, hdistinct p hp, hevents p hp⟩, hsynonyms⟩

/-- The text of a module is one of the language exactly if nothing in the module keeps it from being read. -/
theorem IsSoundModule.isModule_iff {m : Module} (h : IsSoundModule m) :
    IsModule m.text ↔ '\x00' ∉ m.text.toList ∧ isReadableModule m = true := by
  have hread := h.reads
  rw [IsModule, h.isReadableModule_iff]
  refine and_congr_right fun _ => ?_
  have htext : m.text.toList = linesText (textLines m.lines) := (linesText_textLines m.lines).symm
  rw [htext]
  by_cases hp : IsLegibleModule m
  · have hlines : lines? (linesText (textLines m.lines)) = some (prelude ++ Statement.allLines 0 (moduleStatements m)) := by
      rw [lines?, hread.reads hp]
      rfl
    rw [hlines, ← isModule_prelude]
    constructor
    · rintro ⟨ls, hls, hmodule⟩
      exact ⟨hp, Option.some.inj hls ▸ hmodule⟩
    · exact fun hmodule => ⟨_, rfl, hmodule.2⟩
  · have hlines : lines? (linesText (textLines m.lines)) = none := by
      rw [lines?, hread.fails hp]
      rfl
    rw [hlines]
    constructor
    · rintro ⟨ls, hls, -⟩
      cases hls
    · exact fun hmodule => absurd hmodule.1 hp

end DomainModel.Target
