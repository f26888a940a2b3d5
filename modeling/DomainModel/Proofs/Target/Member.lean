import DomainModel.Proofs.Target.Placed
import DomainModel.Proofs.Target.Suite

/-!
# Members in modules

The statements that the source of a member makes in the body of a class, and when it can be read.
-/

namespace DomainModel

def Reading.field : Reading → String
  | stored f => f
  | count f => f

end DomainModel

namespace DomainModel.Target

open Live.Loading Scanner

/-- A statement whose block starts with documentation if there is any. -/
def Header.documented (h : Header) (docs : List String) (first : Statement) (rest : List Statement) : Statement :=
  if docs.isEmpty then .block h first rest else .block h .text (first :: rest)

def documentation (k : Nat) (docs : List String) : List Line := if docs.isEmpty then [] else [⟨k, .text, []⟩]

theorem lines_documented (k : Nat) (h : Header) (docs : List String) (first : Statement) (rest : List Statement) :
    (h.documented docs first rest).lines k =
      h.lines k ++ (documentation (k + 4) docs ++ Statement.allLines (k + 4) (first :: rest)) := by
  rw [Header.documented, documentation]
  split
  · rw [Statement.lines, List.nil_append, Statement.allLines]
  · rw [Statement.lines, Statement.lines]

theorem fits_documented (c : Context) (inChoice : Bool) (h : Header) (docs : List String) (first : Statement)
    (rest : List Statement) (hinside : (h.inside c).2 = false) :
    (h.documented docs first rest).fits c inChoice = (Statement.block h first rest).fits c inChoice := by
  rw [Header.documented]
  split
  · rfl
  · simp [Statement.fits, Statement.allFit, hinside]

/-! ## Lines of members -/

section
variable {n owner field annotation error : String} {q : Bool} {docs : List String}

theorem placed_property : Placed "@property" true ⟨4, .decorator, []⟩ :=
  placed_fixed 0 "@property" (fun _ => rfl) rfl (by decide)

theorem placed_accessor (hn : IsFree n) (he : IsExpression annotation.toList q) (ha : IsInline annotation) :
    Placed ("def " ++ n ++ "(self) -> " ++ annotation ++ ":") (isBindable n && q) ⟨4, .function, ["self"]⟩ := by
  have hself : IsParameters "self".toList true ["self"] := isParameters_one (by decide) (by decide)
  have hmakes := makes_function hn hself he
  rw [Bool.true_and] at hmakes
  exact hmakes.placed (j := 0) (by simp) (by simp +decide [hn.word.isInline, ha])

theorem placed_reading {r : Reading} (hf : IsFree r.field) : Placed ("    return " ++ r.text) true ⟨8, .result, []⟩ := by
  cases r with
  | stored f =>
    have hinline := IsFree.slot (n := f) hf |>.word.isInline
    exact (makes_return_slot hf).placed (j := 4) (by simp [Reading.text, Reading.field])
      (by simp +decide [Reading.text, hinline])
  | count f =>
    have hint : IsFree "int" := by decide
    have hinline := IsFree.slot (n := f) hf |>.word.isInline
    exact (makes_return_call hint hf).placed (j := 4) (by simp [Reading.text, Reading.field])
      (by simp +decide [Reading.text, hinline])

theorem sources_accessor (docs : List String) {ret : String} (hn : IsFree n) (he : IsExpression annotation.toList q)
    (ha : IsInline annotation) (hret : Placed ret true ⟨8, .result, []⟩) :
    Sources (["@property", "def " ++ n ++ "(self) -> " ++ annotation ++ ":"] ++ Member.docLines docs ++ [ret])
      (isBindable n && q) ((Header.documented (.function true ["self"]) docs .result []).lines 4) := by
  have hsources := ((Sources.nil.cons (placed_accessor hn he ha)).cons placed_property).append
    ((Sources.docLines docs).append (Sources.nil.cons hret))
  rw [lines_documented]
  simpa [Sources, documentation, Header.lines, Header.isDecorated, Header.form, Header.names, Statement.allLines,
    Statement.lines] using hsources

theorem reads_accessor {r : Reading} (hn : IsFree n) (he : IsExpression annotation.toList q) (ha : IsInline annotation)
    (hf : IsFree r.field) :
    Reads (textLines [ClassPlan.shifted (Member.tidy (Member.accessor n annotation r docs).source)])
      ((isBindable n && q) = true) (Statement.allLines 4 [Header.documented (.function true ["self"]) docs .result []]) := by
  have hsources := sources_accessor docs hn he ha (placed_reading hf)
  rw [Statement.allLines, Statement.allLines, List.append_nil]
  exact hsources.tidy rfl (by simp [List.getLast?_cons]) placed_property.code (placed_reading hf).code

theorem hasWords_none : HasWords ⟨"None", []⟩ := ⟨⟨"None", [], by decide, by simp, by rfl⟩, trivial⟩

theorem isExpression_none : IsExpression "None".toList true := isExpression_typeText hasWords_none

theorem reads_property (hn : IsFree n) (he : IsExpression annotation.toList q) (ha : IsInline annotation) :
    Reads (textLines [ClassPlan.shifted (Member.tidy (Member.property n annotation docs).source)])
      ((isBindable n && isBindable (slot n) && q) = true)
      (Statement.allLines 4 [Header.documented (.function true ["self"]) docs .result [],
        .block (.function true ["self", "value"]) .plain []]) := by
  have hinline := hn.word.isInline
  have hslot := hn.slot.word.isInline
  have hself : IsFree "self" := by decide
  have hvalue : IsFree "value" := by decide
  have hreturn : Placed ("    return self." ++ slot n) true ⟨8, .result, []⟩ :=
    (makes_return_slot hn).placed (j := 4) (by simp) (by simp +decide [hslot])
  have hdecorator : Placed ("@" ++ n ++ ".setter") true ⟨4, .decorator, []⟩ :=
    (makes_setter hn).placed (j := 0) (by simp) (by simp +decide [hinline])
  have hsetter : Placed ("def " ++ n ++ "(self, value: " ++ annotation ++ ") -> None:")
      (isBindable n && (isBindable "value" && q && true))
      ⟨4, .function, ["self", "value"]⟩ :=
    (makes_function hn (isParameters_typed hself (by decide) hvalue he) isExpression_none).placed (j := 0) (by simp)
      (by simp +decide [hinline, ha])
  have hstore : Placed ("    self." ++ slot n ++ " = value") (isBindable (slot n)) ⟨8, .plain, []⟩ :=
    (makes_assign hself hn.slot hvalue).placed (j := 4) (by simp) (by simp +decide [hslot])
  have hsources := (sources_accessor docs hn he ha hreturn).append
    (((Sources.nil.cons hstore).cons hsetter).cons hdecorator).blank
  have hread := hsources.tidy rfl (by simp [List.getLast?_cons]) placed_property.code hstore.code
  rw [List.append_assoc] at hread
  refine Reads.congr hread ?_
  simp only [Bool.and_eq_true, Bool.true_and, Bool.and_true]
  tauto

theorem reads_equality (ho : IsFree owner) (hf : IsFree field) :
    Reads (textLines [ClassPlan.shifted (Member.tidy (Member.equality owner field).source)]) (true = true)
      (Statement.allLines 4 [.block (.function false ["self", "other"]) (.block .branch .result []) [.result]]) := by
  have howner := ho.word.isInline
  have hslot := hf.slot.word.isInline
  have hhead : Placed "def __eq__(self, other: object) -> bool:" true ⟨4, .function, ["self", "other"]⟩ :=
    placed_fixed 0 "def __eq__(self, other: object) -> bool:" (fun _ => rfl) rfl (by decide)
  have hif : Placed ("    if not isinstance(other, " ++ owner ++ "):") true ⟨8, .branch, []⟩ :=
    (makes_if_instance ho).placed (j := 4) (by simp) (by simp +decide [howner])
  have hundecided : Placed "        return NotImplemented" true ⟨12, .result, []⟩ :=
    placed_fixed 8 "return NotImplemented" (fun _ => rfl) rfl (by decide)
  have hreturn : Placed ("    return self." ++ slot field ++ " == other." ++ slot field) true ⟨8, .result, []⟩ :=
    (makes_return_equal hf).placed (j := 4) (by simp) (by simp +decide [hslot])
  exact ((((Sources.nil.cons hreturn).cons hundecided).cons hif).cons hhead).tidy rfl rfl hhead.code hreturn.code

theorem reads_hash (hf : IsFree field) :
    Reads (textLines [ClassPlan.shifted (Member.tidy (Member.hash field).source)]) (true = true)
      (Statement.allLines 4 [.block (.function false ["self"]) .result []]) := by
  have hslot := hf.slot.word.isInline
  have hhash : IsFree "hash" := by decide
  have hhead : Placed "def __hash__(self) -> int:" true ⟨4, .function, ["self"]⟩ :=
    placed_fixed 0 "def __hash__(self) -> int:" (fun _ => rfl) rfl (by decide)
  have hreturn : Placed ("    return hash(self." ++ slot field ++ ")") true ⟨8, .result, []⟩ :=
    (makes_return_call hhash hf).placed (j := 4) (by simp) (by simp +decide [hslot])
  exact ((Sources.nil.cons hreturn).cons hhead).tidy rfl rfl hhead.code hreturn.code

theorem reads_display (hf : IsFree field) :
    Reads (textLines [ClassPlan.shifted (Member.tidy (Member.display field).source)]) (true = true)
      (Statement.allLines 4 [.block (.function false ["self"]) .result []]) := by
  have hslot := hf.slot.word.isInline
  have hstr : IsFree "str" := by decide
  have hhead : Placed "def __str__(self) -> str:" true ⟨4, .function, ["self"]⟩ :=
    placed_fixed 0 "def __str__(self) -> str:" (fun _ => rfl) rfl (by decide)
  have hreturn : Placed ("    return str(self." ++ slot field ++ ")") true ⟨8, .result, []⟩ :=
    (makes_return_call hstr hf).placed (j := 4) (by simp) (by simp +decide [hslot])
  exact ((Sources.nil.cons hreturn).cons hhead).tidy rfl rfl hhead.code hreturn.code

theorem reads_clone (ho : IsFree owner) (hf : IsFree field) :
    Reads (textLines [ClassPlan.shifted (Member.tidy (Member.clone owner field).source)]) (isBindable field = true)
      (Statement.allLines 4 [.block (.function false ["self"]) .result [], .plain]) := by
  have howner := ho.word.isInline
  have hinline := hf.word.isInline
  have hslot := hf.slot.word.isInline
  have hclone : IsFree "clone" := by decide
  have hself : IsParameters "self".toList true ["self"] := isParameters_one (by decide) (by decide)
  have hhead : Placed ("def clone(self) -> " ++ owner ++ ":") (isBindable "clone" && (true && true)) ⟨4, .function, ["self"]⟩ :=
    (makes_function hclone hself (isExpression_name ho)).placed (j := 0) (by simp) (by simp +decide [howner])
  have hreturn : Placed ("    return type(self)(" ++ field ++ "=_copy.copy(self." ++ slot field ++ "))") (isBindable field)
      ⟨8, .result, []⟩ :=
    (makes_return_copy hf).placed (j := 4) (by simp) (by simp +decide [hinline, hslot])
  have hsame : Placed "__copy__ = clone" true ⟨4, .plain, []⟩ :=
    placed_fixed 0 "__copy__ = clone" (fun _ => rfl) rfl (by decide)
  have hsources := ((Sources.nil.cons hsame).blank.cons hreturn).cons hhead
  exact (hsources.tidy rfl rfl hhead.code hsame.code).congr (by simp +decide)

theorem sources_tryFromDoc (ho : IsFree owner) (hf : IsFree field) (he : IsFree error) :
    Sources ["    \"\"\"Validate ``" ++ field ++ "`` and wrap it in a new " ++ owner ++ ".", "", "    Raises:",
      "        " ++ error ++ ": ``validate`` rejected the value.", "    \"\"\""] true [⟨8, .text, []⟩] := by
  have hfirst : IsCode ("    \"\"\"Validate ``" ++ field ++ "`` and wrap it in a new " ++ owner ++ ".") :=
    ⟨by simp +decide [hf.word.isInline, ho.word.isInline], '"', by simp, by decide⟩
  have herror : IsCode ("        " ++ error ++ ": ``validate`` rejected the value.") :=
    ⟨by simp +decide [he.word.isInline], ':', by simp, by decide⟩
  have hraises : IsCode "    Raises:" := ⟨by decide, ':', by simp, by decide⟩
  have hlast : IsCode "    \"\"\"" := ⟨by decide, '"', by simp, by decide⟩
  have hbody : IsUnquoted (tryFromDoc owner field error) := by
    simp +decide [tryFromDoc, ho.isUnquoted, hf.isUnquoted, he.isUnquoted]
  rw [Sources, List.flatMap_cons, List.flatMap_cons, List.flatMap_cons, List.flatMap_cons, List.flatMap_singleton,
    hfirst.placeLine_eq, placeLine_empty, hraises.placeLine_eq, herror.placeLine_eq, hlast.placeLine_eq]
  refine (reads_literal (tryFromDoc owner field error) ?_ hbody (by simp [tryFromDoc])).congr (by simp)
  have hopen : ∀ cs, Lines.margin ++ ("    \"\"\"Validate ``".toList ++ cs) =
      List.replicate 8 ' ' ++ (Docstring.quotes ++ ("Validate ``".toList ++ cs)) := fun _ => by rfl
  have hmiddle : ∀ cs, ".".toList ++ '\n' :: '\n' :: (Lines.margin ++ ("    Raises:".toList ++ '\n' :: (Lines.margin ++
      ("        ".toList ++ cs)))) = ".\n\n        Raises:\n            ".toList ++ cs := fun _ => by rfl
  have hclose : ": ``validate`` rejected the value.".toList ++ '\n' :: (Lines.margin ++ ("    \"\"\"".toList ++ ['\n'])) =
      ": ``validate`` rejected the value.\n        ".toList ++ (Docstring.quotes ++ ['\n']) := by decide
  simp only [linesText, List.flatMap_cons, List.flatMap_nil, List.cons_append, List.nil_append, tryFromDoc,
    String.toList_append, List.append_assoc, hopen, hmiddle, hclose]

theorem reads_tryFrom (ho : IsFree owner) (hf : IsFree field) (he : IsFree error)
    (ha : IsExpression annotation.toList q) (hinline : IsInline annotation) :
    Reads (textLines [ClassPlan.shifted (Member.tidy (Member.tryFrom owner field annotation error).source)])
      ((isBindable field && q) = true) (Statement.allLines 4
        [.block (.function true ["cls", field]) .text [.block .branch .plain [], .result]]) := by
  have hcls : IsFree "cls" := by decide
  have hname : IsFree "try_from" := by decide
  have hdecorator : Placed "@classmethod" true ⟨4, .decorator, []⟩ :=
    placed_fixed 0 "@classmethod" (fun _ => rfl) rfl (by decide)
  have hhead : Placed ("def try_from(cls, " ++ field ++ ": " ++ annotation ++ ") -> " ++ owner ++ ":")
      (isBindable "try_from" && (isBindable field && q && true)) ⟨4, .function, ["cls", field]⟩ :=
    (makes_function hname (isParameters_typed hcls (by decide) hf ha) (isExpression_name ho)).placed (j := 0) (by simp)
      (by simp +decide [hf.word.isInline, ho.word.isInline, hinline])
  have hif : Placed ("    if not cls.validate(" ++ field ++ "):") true ⟨8, .branch, []⟩ :=
    (makes_if_invalid hf).placed (j := 4) (by simp) (by simp +decide [hf.word.isInline])
  have hraise : Placed ("        raise " ++ error ++ "(" ++ field ++ ")") true ⟨12, .plain, []⟩ :=
    (makes_raise he hf).placed (j := 8) (by simp) (by simp +decide [hf.word.isInline, he.word.isInline])
  have hreturn : Placed ("    return cls(" ++ field ++ "=" ++ field ++ ")") (isBindable field) ⟨8, .result, []⟩ :=
    (makes_return_new hf).placed (j := 4) (by simp) (by simp +decide [hf.word.isInline])
  have hsources := ((Sources.nil.cons hhead).cons hdecorator).append
    ((sources_tryFromDoc ho hf he).append (((Sources.nil.cons hreturn).cons hraise).cons hif))
  have hread := hsources.tidy (by simp) (by simp) hdecorator.code hreturn.code
  have hbindable : isBindable "try_from" = true := by decide
  refine Reads.congr hread ?_
  simp only [hbindable, Bool.and_eq_true, Bool.true_and, Bool.and_true]
  tauto

theorem sources_caseLines {variants : List String} (ho : IsFree owner) (hn : IsFree n) (hv : ∀ v ∈ variants, IsFree v) :
    Sources (variants.flatMap (Member.caseLines owner n)) (variants.all fun _ => decide (owner ≠ "_"))
      (variants.flatMap fun _ => [⟨12, .alternative, []⟩, ⟨16, .result, []⟩]) := by
  refine .flatMap fun v hmem => ?_
  have hvariant := hv v hmem
  have hcase : Placed ("        case " ++ owner ++ "." ++ v ++ "(payload):") (decide (owner ≠ "_"))
      ⟨12, .alternative, []⟩ :=
    (makes_case ho hvariant).placed (j := 8) (by simp) (by simp +decide [ho.word.isInline, hvariant.word.isInline])
  have hreturn : Placed ("            return payload." ++ n) true ⟨16, .result, []⟩ :=
    (makes_return_payload hn).placed (j := 12) (by simp) (by simp +decide [hn.word.isInline])
  have hlines := (Sources.nil.cons hreturn).cons hcase
  rw [Bool.and_true, Bool.and_true] at hlines
  exact hlines

/-- What the accessor of a sum does: it tells the variants apart, if there are any. -/
def dispatching : List String → Statement
  | [] => .plain
  | _ :: vs => .block .choice (.block .alternative .result []) (vs.map fun _ => .block .alternative .result [])

theorem lines_dispatching (v : String) (vs : List String) :
    (dispatching (v :: vs)).lines 8 =
      ⟨8, .choice, []⟩ :: (v :: vs).flatMap fun _ => [⟨12, .alternative, []⟩, ⟨16, .result, []⟩] := by
  rw [dispatching, Statement.lines, Statement.allLines_eq, List.flatMap_map]
  rfl

theorem reads_dispatch {variants : List String} (ho : IsFree owner) (hn : IsFree n) (hv : ∀ v ∈ variants, IsFree v)
    (he : IsExpression annotation.toList q) (ha : IsInline annotation) :
    Reads (textLines [ClassPlan.shifted (Member.tidy (Member.dispatch owner variants n annotation).source)])
      ((isBindable n && q && isReadableMember (.dispatch owner variants n annotation)) = true)
      (Statement.allLines 4 [.block (.function true ["self"]) (dispatching variants) []]) := by
  have howner := ho.word.isInline
  have hhead := (Sources.nil.cons (placed_accessor hn he ha)).cons placed_property
  cases variants with
  | nil =>
    have hinert : Scanner.IsInert (owner ++ " has no variants").toList := by
      rw [String.toList_append]
      exact Scanner.IsInert.append ho.word.isInert (isInert_of_all (by decide))
    have hraise : Placed ("    raise TypeError(\"" ++ owner ++ " has no variants\")") true ⟨8, .plain, []⟩ :=
      (makes_raise_text hinert (by simp)).placed (j := 4) (by simp) (by simp +decide [howner])
    have hread := (hhead.append (Sources.nil.cons hraise)).tidy (by simp) (by simp) placed_property.code hraise.code
    exact Reads.congr hread (by simp [isReadableMember])
  | cons v vs =>
    have hmatch : Placed "    match self:" true ⟨8, .choice, []⟩ :=
      placed_fixed 4 "match self:" (fun _ => rfl) rfl (by decide)
    have hcases := sources_caseLines ho hn hv
    have hlast : Placed ("            return payload." ++ n) true ⟨16, .result, []⟩ :=
      (makes_return_payload hn).placed (j := 12) (by simp) (by simp +decide [hn.word.isInline])
    have hend : ((v :: vs).flatMap (Member.caseLines owner n)).getLast? = some ("            return payload." ++ n) := by
      rw [← List.dropLast_append_getLast (List.cons_ne_nil v vs), List.flatMap_append, List.flatMap_singleton]
      simp [Member.caseLines]
    have htail : (["def " ++ n ++ "(self) -> " ++ annotation ++ ":", "    match self:"] ++
        (v :: vs).flatMap (Member.caseLines owner n)).getLast? = some ("            return payload." ++ n) := by
      rw [List.getLast?_append, hend]
      rfl
    have hread := (hhead.append (hcases.cons hmatch)).tidy (by simp) htail placed_property.code hlast.code
    rw [Statement.allLines, Statement.lines, Statement.allLines, Statement.allLines, List.append_nil, List.append_nil,
      lines_dispatching]
    refine Reads.congr hread ?_
    simp only [isReadableMember, List.isEmpty_cons, Bool.or_false, List.all_cons, Bool.and_eq_true, List.all_eq_true,
      decide_eq_true_eq]
    tauto

end

end DomainModel.Target
