import DomainModel.Proofs.Target.TypeExpression
import DomainModel.Proofs.Text.Literal

/-!
# Texts that make lines

`Reads text p ls` says when whole lines of text are read, and what lines of a module they make; texts below each other
are read one after the other (`Reads.append`).
-/

namespace DomainModel.Target

namespace Scanner

/-- The scanner with lines before those that it has read. -/
def after (L : List Line) (s : Scanner) : Scanner := { s with lines := L ++ s.lines }

variable (L : List Line) (s : Scanner)

theorem emit_after (t : Token) : (s.after L).emit t = (s.emit t).map (after L) := by
  unfold emit after
  cases s.line.take t <;> rfl

theorem openBracket_after (b : Bracket) (t : Token) : (s.after L).openBracket b t = (s.openBracket b t).map (after L) :=
  emit_after L { s with brackets := b :: s.brackets } t

theorem closeBracket_after (b : Bracket) (t : Token) :
    (s.after L).closeBracket b t = (s.closeBracket b t).map (after L) := by
  obtain ⟨mode, bs, p, ls⟩ := s
  cases bs with
  | nil => rfl
  | cons c bs =>
    by_cases h : b = c
    · simp only [closeBracket, after, if_pos h]
      exact emit_after L ⟨mode, bs, p, ls⟩ t
    · simp only [closeBracket, after, if_neg h, Option.map_none]

theorem feedLine_after : (s.after L).feedLine = s.feedLine.map (after L) := by
  unfold feedLine
  obtain ⟨mode, bs, p, ls⟩ := s
  cases bs with
  | nil =>
    change p.line?.map (fun line => { lines := L ++ ls ++ [line] : Scanner }) = _
    cases p.line? with
    | none => rfl
    | some line => simp [after]
  | cons b bs =>
    by_cases h : .field ∈ b :: bs
    · simp only [after, if_pos h, Option.map_none]
    · simp only [after, if_neg h, Option.map_some]

theorem code_after (c : Char) : (s.after L).code c = (s.code c).map (after L) := by
  unfold code
  split
  · rfl
  · split
    · exact emit_after L s .number
    · split
      · rfl
      · exact feedLine_after L s
      · by_cases h : .field ∈ s.brackets <;> simp [after, h]
      · rfl
      · rfl
      · rfl
      · exact openBracket_after L s _ _
      · exact closeBracket_after L s _ _
      · exact openBracket_after L s _ _
      · exact closeBracket_after L s _ _
      · rw [closeBracket_after]
        cases s.closeBracket .field .closeField <;> rfl
      · by_cases h : s.brackets.head? = some .field <;> simp [after, h]
      · exact emit_after L s _
      · exact emit_after L s _
      · exact emit_after L s _
      · exact emit_after L s _
      · exact emit_after L s _
      · rfl

theorem codeAfter_after (t : Token) (c : Char) : (s.after L).codeAfter t c = (s.codeAfter t c).map (after L) := by
  unfold codeAfter
  rw [emit_after]
  cases s.emit t with
  | none => rfl
  | some s => exact code_after L s c

/-- Lines before those that are read make no difference. -/
theorem step_after (c : Char) : (s.after L).step c = (s.step c).map (after L) := by
  obtain ⟨mode, bs, p, ls⟩ := s
  have hemit := fun mode => emit_after L ⟨mode, bs, p, ls⟩
  have hcode := fun mode p => code_after L ⟨mode, bs, p, ls⟩ c
  have hbehind := fun mode t => codeAfter_after L ⟨mode, bs, p, ls⟩ t c
  have hopen := fun mode => openBracket_after L ⟨mode, bs, p, ls⟩ .field .openField
  have hformat : ∀ mode, (emit ⟨mode, bs, p, L ++ ls⟩ .openFormat).map (fun s => { s with mode := .formatted true }) =
      ((emit ⟨mode, bs, p, ls⟩ .openFormat).map fun s => { s with mode := .formatted true }).map (after L) := by
    intro mode
    have h := hemit mode .openFormat
    simp only [after] at h
    rw [h]
    cases emit ⟨mode, bs, p, ls⟩ .openFormat <;> rfl
  -- what every mode falls back on is known by now; the split follows the scanner, mode by mode
  simp only [after] at *
  cases mode with
  | margin n =>
    simp only [step_margin]
    split_ifs
    exacts [rfl, rfl, hcode _ _]
  | code => exact hcode _ _
  | word cs =>
    simp only [step_word]
    split_ifs
    exacts [rfl, hformat _, rfl, hbehind _ _]
  | dots n =>
    by_cases hn : n = 1
    · subst hn
      simp only [step_dots_one]
      split_ifs
      exacts [rfl, rfl, hbehind _ _]
    · simp only [step]
      split_ifs
      exacts [hemit _ _, rfl]
  | minus =>
    simp only [step_minus]
    split_ifs
    exacts [hemit _ _, rfl]
  | equals =>
    simp only [step_equals]
    split_ifs
    exacts [hemit _ _, hbehind _ _]
  | opened =>
    simp only [step_opened]
    split_ifs
    exacts [rfl, rfl, rfl]
  | doubled =>
    simp only [step_doubled]
    split_ifs
    exacts [rfl, hbehind _ _]
  | short =>
    simp only [step_short]
    split_ifs
    exacts [hemit _ _, rfl, rfl]
  | long q =>
    cases q with
    | inside n =>
      simp only [step_inside]
      split_ifs
      exacts [hemit _ _, rfl, rfl, rfl]
    | escaped =>
      simp only [step_escaped]
      split_ifs
      exacts [rfl, rfl]
  | formatted fresh =>
    simp only [step_formatted]
    split_ifs
    exacts [rfl, hemit _ _, hopen _, rfl, rfl]
  | conversion =>
    simp only [step_conversion]
    split_ifs
    exacts [rfl, rfl]
  | converted =>
    simp only [step_converted]
    split_ifs
    exacts [hcode _ _, rfl]

theorem run_after (cs : List Char) : (s.after L).run cs = (s.run cs).map (after L) := by
  induction cs generalizing s with
  | nil => rfl
  | cons c cs ih =>
    rw [run_cons, run_cons, step_after]
    cases s.step c with
    | none => rfl
    | some s => exact ih s

end Scanner

open Scanner

/-! ## Whole lines -/

/-- Lines of text, each with its end. -/
def linesText (text : List (List Char)) : List Char := text.flatMap (· ++ ['\n'])

theorem linesText_append (a b : List (List Char)) : linesText (a ++ b) = linesText a ++ linesText b := List.flatMap_append

/-- Lines of text are read exactly if `p` holds, and make the lines `ls` of a module then. -/
structure Reads (text : List (List Char)) (p : Prop) (ls : List Line) : Prop where
  reads : p → ({} : Scanner).run (linesText text) = some { lines := ls }
  fails : ¬p → ({} : Scanner).run (linesText text) = none

namespace Reads
variable {a b text : List (List Char)} {p q : Prop} {ls ls' : List Line}

theorem of_run (h : ({} : Scanner).run (linesText text) = some { lines := ls }) : Reads text True ls :=
  ⟨fun _ => h, fun hp => absurd trivial hp⟩

theorem congr (h : Reads text p ls) (hpq : p ↔ q) : Reads text q ls :=
  ⟨fun hq => h.reads (hpq.mpr hq), fun hq => h.fails fun hp => hq (hpq.mp hp)⟩

theorem nil : Reads [] True [] := of_run rfl

/-- How texts behind others are read matters only if those are read. -/
theorem append_of (h : Reads a p ls) (h' : p → Reads b q ls') : Reads (a ++ b) (p ∧ q) (ls ++ ls') := by
  have hlines : ({ lines := ls } : Scanner) = ({} : Scanner).after ls := by simp [after]
  by_cases hp : p
  · have hrun : ({} : Scanner).run (linesText (a ++ b)) = (({} : Scanner).run (linesText b)).map (after ls) := by
      rw [linesText_append, run_append_of (h.reads hp), hlines, run_after]
    refine ⟨fun hpq => ?_, fun hpq => ?_⟩
    · rw [hrun, (h' hp).reads hpq.2]
      rfl
    · rw [hrun, (h' hp).fails fun hq => hpq ⟨hp, hq⟩]
      rfl
  · refine ⟨fun hpq => absurd hpq.1 hp, fun _ => ?_⟩
    rw [linesText_append, run_append, h.fails hp, resume_none]

theorem append (h : Reads a p ls) (h' : Reads b q ls') : Reads (a ++ b) (p ∧ q) (ls ++ ls') := h.append_of fun _ => h'

theorem flatMap {α : Type} {xs : List α} {f : α → List (List Char)} {p : α → Prop} {g : α → List Line}
    (h : ∀ x ∈ xs, Reads (f x) (p x) (g x)) : Reads (xs.flatMap f) (∀ x ∈ xs, p x) (xs.flatMap g) := by
  induction xs with
  | nil => exact nil.congr (by simp)
  | cons x xs ih =>
    have hmore := ih fun y hy => h y (List.mem_cons_of_mem _ hy)
    exact ((h x List.mem_cons_self).append hmore).congr (by simp)

end Reads

/-! ## Documentation -/

def Long.quoting : Long → Quoting
  | inside n => .inside n
  | escaped => .escaped

def IsUnquoted (s : String) : Prop := (s.toList.all fun c => c ≠ '"' && c ≠ '\\') = true

instance (s : String) : Decidable (IsUnquoted s) := inferInstanceAs (Decidable (_ = true))

@[simp] theorem isUnquoted_append {s t : String} : IsUnquoted (s ++ t) ↔ IsUnquoted s ∧ IsUnquoted t := by
  simp only [IsUnquoted, String.toList_append, List.all_append, Bool.and_eq_true]

theorem IsFree.isUnquoted {n : String} (h : IsFree n) : IsUnquoted n := by
  refine List.all_eq_true.mpr fun c hc => ?_
  obtain ⟨hq, hf, -⟩ := h.word.isInert c hc
  have hb : c ≠ '\\' := by
    rintro rfl
    cases hf
  simp [hq, hb]

variable {L : List Line} {bs : List Bracket} {p : Progress}

theorem run_long {cs : List Char} (q : Long) (h : q.quoting.strictRead cs = .closed) (b : List Char) :
    run ⟨.long q, bs, p, L⟩ (cs ++ b) = resume (emit ⟨.long q, bs, p, L⟩ .text) b := by
  induction cs generalizing q with
  | nil => cases q <;> cases h
  | cons c cs ih =>
    rw [Quoting.strictRead_cons] at h
    have hmode : ∀ q', emit ⟨.long q', bs, p, L⟩ .text = emit ⟨.long q, bs, p, L⟩ .text := fun _ => rfl
    rw [List.cons_append, run_cons]
    cases q with
    | inside n =>
      rw [step_inside]
      by_cases hq : c = '"'
      · by_cases hn : n = 2
        · -- nothing follows a literal
          have hnil : cs = [] := by
            simp only [Long.quoting, Quoting.strictStep, Quoting.step, hq, hn] at h
            cases cs with
            | nil => rfl
            | cons d ds =>
              have : (Quoting.closed.strictStep d) = .beyond := rfl
              simp only [reduceCtorEq, false_and, if_false, if_true, Quoting.strictRead_cons, this,
                Quoting.strictRead_beyond] at h
          rw [if_pos hq, if_pos hn, hnil, List.nil_append]
        · rw [if_pos hq, if_neg hn, resume_some, ih (.inside (n + 1)), hmode]
          simpa [Long.quoting, Quoting.strictStep, Quoting.step, hq, hn] using h
      · by_cases hb : c = '\\'
        · rw [if_neg hq, if_pos hb, resume_some, ih .escaped, hmode]
          simpa [Long.quoting, Quoting.strictStep, Quoting.step, hq, hb] using h
        · rw [if_neg hq, if_neg hb, resume_some, ih (.inside 0), hmode]
          simpa [Long.quoting, Quoting.strictStep, Quoting.step, hq, hb] using h
    | escaped =>
      by_cases hc : c = '\\' ∨ c = '"'
      · rw [step_escaped, if_pos hc, resume_some, ih (.inside 0), hmode]
        have hstrict : ¬(c ≠ '\\' ∧ c ≠ '"') := by
          rcases hc with rfl | rfl <;> simp
        simpa [Long.quoting, Quoting.strictStep, Quoting.step, hstrict] using h
      · rw [not_or] at hc
        simp [Long.quoting, Quoting.strictStep, hc, Quoting.strictRead_beyond] at h

theorem run_margin (n k : Nat) (b : List Char) :
    run ⟨.margin n, bs, p, L⟩ (List.replicate k ' ' ++ b) = run ⟨.margin (n + k), bs, p, L⟩ b := by
  induction k generalizing n with
  | zero => rfl
  | succ k ih =>
    rw [List.replicate_succ, List.cons_append, run_cons, step_margin, if_pos rfl, resume_some, ih, Nat.add_right_comm]
    rfl

theorem linesText_eq {text : List (List Char)} (h : text ≠ []) : linesText text = Lines.join text ++ ['\n'] := by
  induction text with
  | nil => exact absurd rfl h
  | cons l text ih =>
    by_cases hnil : text = []
    · rw [hnil, Lines.join_singleton, linesText, List.flatMap_singleton]
    · rw [Lines.join_cons _ hnil, linesText, List.flatMap_cons, ← linesText, ih hnil]
      simp

theorem reads_literal {k : Nat} {text : List (List Char)} (body : String)
    (htext : linesText text = List.replicate k ' ' ++ (Docstring.quotes ++ (body.toList ++ (Docstring.quotes ++ ['\n']))))
    (hbody : IsUnquoted body) (hne : body.toList ≠ []) : Reads text True [⟨k, .text, []⟩] := by
  have hquotes : ∀ cs, run ⟨.margin k, [], { column := 0 }, []⟩ (Docstring.quotes ++ cs) =
      run ⟨.long (.inside 0), [], { column := k }, []⟩ cs := fun cs => by simp [Docstring.quotes]
  have hunquoted : ∀ c ∈ body.toList, c ≠ '"' ∧ c ≠ '\\' := by simpa [IsUnquoted] using hbody
  refine .of_run ?_
  rw [htext]
  refine (run_margin 0 k _).trans ?_
  rw [Nat.zero_add, hquotes, run_inside hunquoted hne]
  simp [Docstring.quotes]

theorem reads_docstring {k : Nat} {block : List (List Char)} (h : IsPlainDocstring k block) :
    Reads block True [⟨k, .text, []⟩] := by
  obtain ⟨l, ls, hblock⟩ := h.starts
  obtain ⟨rest, hrest⟩ : ∃ rest, Lines.join block = List.replicate k ' ' ++ (Docstring.quotes ++ rest) := by
    rw [hblock]
    cases ls with
    | nil => exact ⟨l, Lines.join_singleton _⟩
    | cons l' ls => exact ⟨l ++ '\n' :: Lines.join (l' :: ls), by rw [Lines.join_cons _ (List.cons_ne_nil _ _)]; simp⟩
  have hclosed : (Quoting.inside 0).strictRead rest = .closed := by
    have hblanks : (Quoting.opening 0).strictRead (List.replicate k ' ') = .opening 0 :=
      IsBlind.foldl_blanks Quoting.isSettled_opening fun c hc => by rw [List.eq_of_mem_replicate hc]; decide
    have hcloses := h.closes
    rw [hrest, Quoting.strictRead_append, hblanks, Quoting.strictRead_append] at hcloses
    exact hcloses
  refine .of_run ?_
  rw [linesText_eq (by simp [hblock]), hrest, List.append_assoc, List.append_assoc, run_margin, Nat.zero_add]
  have hquotes : run ⟨.margin k, [], { column := 0 }, []⟩ (Docstring.quotes ++ (rest ++ ['\n'])) =
      run ⟨.long (.inside 0), [], { column := k }, []⟩ (rest ++ ['\n']) := by
    simp [Docstring.quotes]
  rw [hquotes, run_long (.inside 0) hclosed]
  simp

end DomainModel.Target
