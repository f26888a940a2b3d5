import DomainModel.Live.Loading
import DomainModel.Proofs.Source.Spelling
import DomainModel.Proofs.Source.Wording
import DomainModel.Proofs.Target.Block

/-!
# Reading lines

How the scanner reads the words, the literals and the types that the lines of a module are made of. The equations
tagged for `simp` execute the scanner on a text that is given character by character.
-/

namespace DomainModel.Target

attribute [simp] Progress.take Progress.line? feed Symbol.on Symbol.quiet Symbol.canEnd Symbol.constants
  Symbol.ofAtom Symbol.ofExpr Symbol.ofTrail Symbol.ofOperators Symbol.ofIsOperand Symbol.ofTexts Symbol.ofFormat
  Symbol.ofElements Symbol.ofMoreElements Symbol.ofArgument Symbol.ofArguments Symbol.ofName Symbol.ofBinding
  Symbol.ofNoted Symbol.ofParameter Symbol.ofStatement Symbol.ofTarget Symbol.ofPath Symbol.ofCalled Symbol.ofPatternTail

namespace Scanner

attribute [simp] emit openBracket closeBracket feedLine

/-- Goes on where a character has led, if it has led anywhere. -/
def resume (s? : Option Scanner) (cs : List Char) : Option Scanner := s?.bind (·.run cs)

variable {s s' : Scanner} {a b cs : List Char} {c : Char} {L : List Line} {bs : List Bracket} {p : Progress}

@[simp] theorem resume_some (s : Scanner) (cs : List Char) : resume (some s) cs = s.run cs := by rfl

@[simp] theorem resume_none (cs : List Char) : resume none cs = none := by rfl

@[simp] theorem run_nil (s : Scanner) : s.run [] = some s := by rfl

@[simp] theorem run_cons (s : Scanner) (c : Char) (cs : List Char) : s.run (c :: cs) = resume (s.step c) cs := by rfl

theorem run_append (s : Scanner) (a b : List Char) : s.run (a ++ b) = resume (s.run a) b := List.foldlM_append

theorem run_append_of (h : s.run a = some s') (b : List Char) : s.run (a ++ b) = s'.run b := by
  rw [run_append, h, resume_some]

/-! ## Characters -/

section
variable (s : Scanner)

@[simp] theorem code_blank : s.code ' ' = some { s with mode := .code } := by rfl
@[simp] theorem code_feed : s.code '\n' = s.feedLine := by rfl
@[simp] theorem code_quote : s.code '"' = if .field ∈ s.brackets then none else some { s with mode := .opened } := by rfl
@[simp] theorem code_dot : s.code '.' = some { s with mode := .dots 1 } := by rfl
@[simp] theorem code_minus : s.code '-' = some { s with mode := .minus } := by rfl
@[simp] theorem code_equals : s.code '=' = some { s with mode := .equals } := by rfl
@[simp] theorem code_openParen : s.code '(' = s.openBracket .round .openParen := by rfl
@[simp] theorem code_closeParen : s.code ')' = s.closeBracket .round .closeParen := by rfl
@[simp] theorem code_openBracket : s.code '[' = s.openBracket .square .openBracket := by rfl
@[simp] theorem code_closeBracket : s.code ']' = s.closeBracket .square .closeBracket := by rfl
@[simp] theorem code_comma : s.code ',' = s.emit .comma := by rfl
@[simp] theorem code_colon : s.code ':' = s.emit .colon := by rfl
@[simp] theorem code_star : s.code '*' = s.emit .star := by rfl
@[simp] theorem code_bar : s.code '|' = s.emit .bar := by rfl
@[simp] theorem code_atSign : s.code '@' = s.emit .atSign := by rfl
@[simp] theorem code_closeField :
    s.code '\x7d' = (s.closeBracket .field .closeField).map fun s => { s with mode := .formatted false } := by rfl
@[simp] theorem code_exclamation :
    s.code '!' = if s.brackets.head? = some .field then some { s with mode := .conversion } else none := by rfl

theorem code_start (h : Identifier.isStart c = true) : s.code c = some { s with mode := .word [c] } := by
  unfold code
  exact if_pos h

end

section
variable (bs p L c)

@[simp] theorem step_margin (n : Nat) : step ⟨.margin n, bs, p, L⟩ c =
    if c = ' ' then some ⟨.margin (n + 1), bs, p, L⟩ else if c = '\n' then some ⟨.margin 0, bs, p, L⟩
    else code ⟨.margin n, bs, { column := n }, L⟩ c := by rfl

@[simp] theorem step_code : step ⟨.code, bs, p, L⟩ c = code ⟨.code, bs, p, L⟩ c := by rfl

@[simp] theorem step_word (cs : List Char) : step ⟨.word cs, bs, p, L⟩ c =
    if Identifier.isPart c then some ⟨.word (cs ++ [c]), bs, p, L⟩
    else if c = '"' then
      if cs = ['f'] ∧ .field ∉ bs then
        (emit ⟨.word cs, bs, p, L⟩ .openFormat).map fun s => { s with mode := .formatted true }
      else none
    else codeAfter ⟨.word cs, bs, p, L⟩ (.ofWord (String.ofList cs)) c := by rfl

@[simp] theorem step_dots_one : step ⟨.dots 1, bs, p, L⟩ c =
    if c = '.' then some ⟨.dots 2, bs, p, L⟩ else if c.isDigit then none else codeAfter ⟨.dots 1, bs, p, L⟩ .dot c := by rfl

@[simp] theorem step_dots_two : step ⟨.dots 2, bs, p, L⟩ c =
    if c = '.' then emit ⟨.dots 2, bs, p, L⟩ .ellipsis else none := by rfl

@[simp] theorem step_minus : step ⟨.minus, bs, p, L⟩ c =
    if c = '>' then emit ⟨.minus, bs, p, L⟩ .arrow else none := by rfl

@[simp] theorem step_equals : step ⟨.equals, bs, p, L⟩ c =
    if c = '=' then emit ⟨.equals, bs, p, L⟩ .same else codeAfter ⟨.equals, bs, p, L⟩ .equals c := by rfl

@[simp] theorem step_opened : step ⟨.opened, bs, p, L⟩ c =
    if c = '"' then some ⟨.doubled, bs, p, L⟩ else if isForbidden c then none else some ⟨.short, bs, p, L⟩ := by rfl

@[simp] theorem step_doubled : step ⟨.doubled, bs, p, L⟩ c =
    if c = '"' then some ⟨.long (.inside 0), bs, p, L⟩ else codeAfter ⟨.doubled, bs, p, L⟩ .text c := by rfl

@[simp] theorem step_short : step ⟨.short, bs, p, L⟩ c =
    if c = '"' then emit ⟨.short, bs, p, L⟩ .text else if isForbidden c then none else some ⟨.short, bs, p, L⟩ := by rfl

@[simp] theorem step_inside (n : Nat) : step ⟨.long (.inside n), bs, p, L⟩ c =
    if c = '"' then
      if n = 2 then emit ⟨.long (.inside n), bs, p, L⟩ .text else some ⟨.long (.inside (n + 1)), bs, p, L⟩
    else if c = '\\' then some ⟨.long .escaped, bs, p, L⟩ else some ⟨.long (.inside 0), bs, p, L⟩ := by rfl

@[simp] theorem step_escaped : step ⟨.long .escaped, bs, p, L⟩ c =
    if c = '\\' ∨ c = '"' then some ⟨.long (.inside 0), bs, p, L⟩ else none := by rfl

@[simp] theorem step_formatted (fresh : Bool) : step ⟨.formatted fresh, bs, p, L⟩ c =
    if c = '"' then if fresh then none else emit ⟨.formatted fresh, bs, p, L⟩ .closeFormat
    else if c = '\x7b' then openBracket ⟨.formatted fresh, bs, p, L⟩ .field .openField
    else if c = '\x7d' ∨ isForbidden c then none else some ⟨.formatted false, bs, p, L⟩ := by rfl

@[simp] theorem step_conversion : step ⟨.conversion, bs, p, L⟩ c =
    if c = 'r' ∨ c = 's' ∨ c = 'a' then some ⟨.converted, bs, p, L⟩ else none := by rfl

@[simp] theorem step_converted : step ⟨.converted, bs, p, L⟩ c =
    if c = '\x7d' then code ⟨.converted, bs, p, L⟩ c else none := by rfl

end

/-! ## Words -/

theorem ne_of_isStart {d : Char} (h : Identifier.isStart c = true) (hd : Identifier.isStart d = false) : c ≠ d := by
  rintro rfl
  exact absurd h (by simp [hd])

theorem not_isDigit_of_isStart (h : Identifier.isStart c = true) : c.isDigit = false := by
  rw [← Bool.not_eq_true]
  intro hd
  have hlt : c.toNat < 0x80 := by
    simp only [Char.isDigit, Bool.and_eq_true, decide_eq_true_eq] at hd
    have := UInt32.le_iff_toNat_le.mp hd.2
    change c.toNat ≤ 57 at this
    omega
  rw [Identifier.isStart, if_pos hlt, Solid.not_isStart_of_isDigit hd] at h
  cases h

theorem exists_cons_of_isIdentifier {w : String} (h : Identifier.isIdentifier w = true) :
    ∃ c cs, w.toList = c :: cs ∧ Identifier.isStart c = true ∧ ∀ d ∈ cs, Identifier.isPart d = true := by
  unfold Identifier.isIdentifier at h
  cases hw : w.toList with
  | nil => simp [hw] at h
  | cons c cs =>
    simp only [hw, Bool.and_eq_true, List.all_eq_true] at h
    exact ⟨c, cs, rfl, h⟩

theorem run_parts (ds : List Char) (ha : ∀ d ∈ a, Identifier.isPart d = true) :
    run ⟨.word ds, bs, p, L⟩ (a ++ b) = run ⟨.word (ds ++ a), bs, p, L⟩ b := by
  induction a generalizing ds with
  | nil => simp
  | cons d a ih =>
    simp only [List.mem_cons, forall_eq_or_imp] at ha
    simp [ha.1, ih _ ha.2]

theorem run_identifier {w : String} (hw : Identifier.isIdentifier w = true) (hc : Identifier.isPart c = false)
    (hq : c ≠ '"') : run ⟨.code, bs, p, L⟩ (w.toList ++ c :: cs) =
      resume (emit ⟨.code, bs, p, L⟩ (.ofWord w)) (c :: cs) := by
  obtain ⟨d, ds, hd, hstart, hparts⟩ := exists_cons_of_isIdentifier hw
  rw [hd, List.cons_append, run_cons, step_code, code_start _ hstart, resume_some, run_parts _ hparts, run_cons,
    step_word, if_neg (by simp [hc]), if_neg hq, List.singleton_append, ← hd, String.ofList_toList, codeAfter]
  unfold emit
  cases p.take (.ofWord w) <;> simp

theorem run_margin_identifier {w : String} (hw : Identifier.isIdentifier w = true) (n : Nat) (cs : List Char) :
    run ⟨.margin n, bs, p, L⟩ (w.toList ++ cs) = run ⟨.code, bs, { column := n }, L⟩ (w.toList ++ cs) := by
  obtain ⟨d, ds, hd, hstart, -⟩ := exists_cons_of_isIdentifier hw
  rw [hd, List.cons_append, run_cons, run_cons, step_margin, step_code, if_neg (ne_of_isStart hstart (by decide)),
    if_neg (ne_of_isStart hstart (by decide)), code_start _ hstart, code_start _ hstart]

theorem run_dots_identifier {w : String} (hw : Identifier.isIdentifier w = true) (cs : List Char) :
    run ⟨.dots 1, bs, p, L⟩ (w.toList ++ cs) = resume (emit ⟨.dots 1, bs, p, L⟩ .dot) (w.toList ++ cs) := by
  obtain ⟨d, ds, hd, hstart, -⟩ := exists_cons_of_isIdentifier hw
  rw [hd, List.cons_append, run_cons, step_dots_one, if_neg (ne_of_isStart hstart (by decide)),
    if_neg (by simp [not_isDigit_of_isStart hstart]), codeAfter]
  unfold emit
  cases p.take .dot <;> simp

theorem run_equals_identifier {w : String} (hw : Identifier.isIdentifier w = true) (cs : List Char) :
    run ⟨.equals, bs, p, L⟩ (w.toList ++ cs) = resume (emit ⟨.equals, bs, p, L⟩ .equals) (w.toList ++ cs) := by
  obtain ⟨d, ds, hd, hstart, -⟩ := exists_cons_of_isIdentifier hw
  rw [hd, List.cons_append, run_cons, step_equals, if_neg (ne_of_isStart hstart (by decide)), codeAfter]
  unfold emit
  cases p.take .equals <;> simp

/-! ## Texts -/

def IsInert (cs : List Char) : Prop := ∀ c ∈ cs, c ≠ '"' ∧ isForbidden c = false ∧ c ≠ '\x7b' ∧ c ≠ '\x7d'

theorem run_short (ha : IsInert a) : run ⟨.short, bs, p, L⟩ (a ++ b) = run ⟨.short, bs, p, L⟩ b := by
  induction a with
  | nil => rfl
  | cons c a ih =>
    obtain ⟨hq, hf, -⟩ := ha c List.mem_cons_self
    rw [List.cons_append, run_cons, step_short, if_neg hq, if_neg (Bool.eq_false_iff.mp hf), resume_some]
    exact ih fun d hd => ha d (List.mem_cons_of_mem _ hd)

theorem run_opened (ha : IsInert a) (hne : a ≠ []) : run ⟨.opened, bs, p, L⟩ (a ++ b) = run ⟨.short, bs, p, L⟩ b := by
  obtain ⟨c, a, rfl⟩ := List.exists_cons_of_ne_nil hne
  obtain ⟨hq, hf, -⟩ := ha c List.mem_cons_self
  rw [List.cons_append, run_cons, step_opened, if_neg hq, if_neg (Bool.eq_false_iff.mp hf), resume_some]
  exact run_short fun d hd => ha d (List.mem_cons_of_mem _ hd)

theorem run_formatted (ha : IsInert a) (hne : a ≠ []) (fresh : Bool) :
    run ⟨.formatted fresh, bs, p, L⟩ (a ++ b) = run ⟨.formatted false, bs, p, L⟩ b := by
  induction a generalizing fresh with
  | nil => exact absurd rfl hne
  | cons c a ih =>
    obtain ⟨hq, hf, ho, hc⟩ := ha c List.mem_cons_self
    rw [List.cons_append, run_cons, step_formatted, if_neg hq, if_neg ho,
      if_neg (not_or.mpr ⟨hc, Bool.eq_false_iff.mp hf⟩), resume_some]
    by_cases hnil : a = []
    · rw [hnil]
      rfl
    · exact ih (fun d hd => ha d (List.mem_cons_of_mem _ hd)) hnil false

theorem run_inside (ha : ∀ c ∈ a, c ≠ '"' ∧ c ≠ '\\') (hne : a ≠ []) (n : Nat) :
    run ⟨.long (.inside n), bs, p, L⟩ (a ++ b) = run ⟨.long (.inside 0), bs, p, L⟩ b := by
  induction a generalizing n with
  | nil => exact absurd rfl hne
  | cons c a ih =>
    obtain ⟨hq, hb⟩ := ha c List.mem_cons_self
    rw [List.cons_append, run_cons, step_inside, if_neg hq, if_neg hb, resume_some]
    by_cases hnil : a = []
    · rw [hnil]
      rfl
    · exact ih (fun d hd => ha d (List.mem_cons_of_mem _ hd)) hnil 0

end Scanner

end DomainModel.Target

/-! ## Words of a declaration file -/

namespace DomainModel

section
variable {w : String} {c : Char}

theorem toNat_lt_of_isPart (h : Word.isPart c = true) : c.toNat < 0x80 := by
  have hle : ∀ b : Char, b.toNat < 0x80 → c.val ≤ b.val → c.toNat < 0x80 :=
    fun _ hb h => Nat.lt_of_le_of_lt (UInt32.le_iff_toNat_le.mp h) hb
  rcases Bool.or_eq_true_iff.mp h with h | h
  · rcases Bool.or_eq_true_iff.mp h with h | h
    · rcases Bool.or_eq_true_iff.mp h with h | h
      · exact hle 'Z' (by decide) (of_decide_eq_true h).2
      · exact hle 'z' (by decide) (of_decide_eq_true (Bool.and_eq_true_iff.mp h).2)
    · exact hle '9' (by decide) (of_decide_eq_true (Bool.and_eq_true_iff.mp h).2)
  · rw [of_decide_eq_true h]
    decide

theorem isPart_of_word (h : Word.isPart c = true) : Identifier.isPart c = true := by
  rw [Identifier.isPart, if_pos (toNat_lt_of_isPart h), h]

theorem IsWord.isIdentifier (h : IsWord w) : Identifier.isIdentifier w = true := by
  obtain ⟨c, cs, hw, hc, hcs⟩ := h
  simp only [Identifier.isIdentifier, hw, Bool.and_eq_true, List.all_eq_true]
  refine ⟨?_, fun d hd => isPart_of_word (hcs d hd)⟩
  rw [Identifier.isStart, if_pos (toNat_lt_of_isPart (isPart_of_isStart hc)), hc]

theorem isInert_of_isPart (h : Word.isPart c = true) :
    c ≠ '"' ∧ Target.Scanner.isForbidden c = false ∧ c ≠ '\x7b' ∧ c ≠ '\x7d' := by
  have hne : ∀ d, Word.isPart d = false → c ≠ d := by
    rintro d hd rfl
    exact absurd h (by simp [hd])
  refine ⟨hne _ (by decide), ?_, hne _ (by decide), hne _ (by decide)⟩
  simp [Target.Scanner.isForbidden, hne '\\' (by decide), hne '\n' (by decide), hne '\r' (by decide)]

theorem IsWord.isInert (h : IsWord w) : Target.Scanner.IsInert w.toList := fun c hc => isInert_of_isPart (h.isPart_of_mem c hc)

theorem IsWord.plain_eq (h : IsWord w) : Compatible.name w = w := by
  have hplain : ∀ cs : List Char, (∀ c ∈ cs, Word.isPart c = true) → cs.flatMap Compatible.plain = cs := by
    intro cs hcs
    induction cs with
    | nil => rfl
    | cons c cs ih =>
      have hlt := toNat_lt_of_isPart (hcs c List.mem_cons_self)
      rw [List.flatMap_cons, ih fun d hd => hcs d (List.mem_cons_of_mem _ hd), Compatible.plain, if_pos hlt]
      rfl
  rw [Compatible.name, hplain _ h.isPart_of_mem, String.ofList_toList]

end

end DomainModel

namespace DomainModel.Target

structure IsFree (n : String) : Prop where
  word : IsWord n
  free : Keyword.isReserved n = false

theorem IsFree.ofWord_eq {n : String} (h : IsFree n) : Token.ofWord n = .name n := by
  rw [Token.ofWord, h.free]
  rfl

theorem IsFree.isBindable_eq {n : String} (h : IsFree n) : Symbol.isBindable n = Live.Loading.isBindable n := by
  rw [Symbol.isBindable, h.word.plain_eq, Live.Loading.isBindable]

end DomainModel.Target
