import DomainModel.Proofs.Source.ErrorPosition
import DomainModel.Proofs.Source.Layout
import DomainModel.Proofs.Source.Spelling

/-!
# Carriage returns before line feeds

A text may end its lines with a carriage return and a line feed instead of a line feed alone, and is read alike
(`parse_withReturns`). The return is a blank, or the end of a comment, or is left out of a documentation line; in no
other lexeme does it take part, and the line feed behind it starts a new line at the first column in any case.
-/

namespace DomainModel

/-- The characters with a carriage return before every line feed. -/
def withReturns (cs : List Char) : List Char := cs.flatMap fun c => if c = '\n' then ['\r', '\n'] else [c]

section
variable {c : Char} {a b v w s u : List Char}

theorem withReturns_append : withReturns (a ++ b) = withReturns a ++ withReturns b := List.flatMap_append

theorem withReturns_of_not_mem (h : '\n' ∉ v) : withReturns v = v := by
  induction v with
  | nil => rfl
  | cons c v ih =>
    rw [List.mem_cons, not_or] at h
    rw [withReturns, List.flatMap_cons, if_neg (Ne.symm h.1)]
    exact congrArg (c :: ·) (ih h.2)

theorem withReturns_line (h : '\n' ∉ v) : withReturns (v ++ '\n' :: s) = v ++ '\r' :: '\n' :: withReturns s := by
  rw [withReturns_append, withReturns_of_not_mem h]
  rfl

/-! ## Lexemes before a return -/

theorem Terminal.getLast?_quoted (h : Terminal.IsQuoted w) : w.getLast? = some '"' := by
  induction h with
  | close => rfl
  | @plain c cs _ _ _ hcs ih => rw [List.getLast?_cons, ih, Option.getD_some]
  | @escaped c cs _ hcs ih => rw [List.getLast?_cons, List.getLast?_cons, ih, Option.getD_some, Option.getD_some]

theorem Terminal.Matches.eq_doc {t : Terminal} (h : t.Matches (w ++ ['\r'])) : t = .doc := by
  by_cases ht : t.IsCompact
  · exact absurd (h.not_parting ht '\r' (by simp)) (by decide)
  · refine (Terminal.not_isCompact ht).resolve_right ?_
    rintro rfl
    obtain ⟨cs, hcs, hquoted⟩ := h
    have hlast := congrArg List.getLast? hcs
    rw [List.getLast?_concat, List.getLast?_cons, Terminal.getLast?_quoted hquoted] at hlast
    cases hlast

theorem skipWidth_eq_zero_iff : skipWidth (c :: a) = 0 ↔ isBlank c = false ∧ (c = '#' → a.head? = some ':') := by
  rw [skipWidth]
  cases hb : isBlank c with
  | true => simp
  | false =>
    rw [if_neg Bool.false_ne_true]
    unfold commentWidth
    split
    · next he =>
      cases he
      simp
    · next hno he =>
      cases he
      simp only [true_and, forall_const, Nat.add_eq_zero_iff, Nat.succ_ne_self, and_false, false_iff]
      intro hh
      obtain ⟨a, rfl⟩ := List.head?_eq_some_iff.mp hh
      exact hno _ rfl
    · next hno =>
      simp only [true_and, true_iff]
      rintro rfl
      exact absurd rfl (hno _)

theorem skipWidth_return (h : skipWidth (v ++ '\n' :: s) = 0) : skipWidth (v ++ '\r' :: b) = 0 := by
  cases v with
  | nil => cases h
  | cons c v =>
    rw [List.cons_append, skipWidth_eq_zero_iff] at h ⊢
    refine ⟨h.1, fun hc => ?_⟩
    have hhead := h.2 hc
    cases v with
    | nil => cases hhead
    | cons d v => exact hhead

theorem docText_return : docText ('#' :: ':' :: (v ++ ['\r'])) = docText ('#' :: ':' :: v) := by
  simp [docText]

end

/-! ## Readers -/

theorem Reader.step_doc {r : Reader} {k k' : Token} (hk : k.terminal = .doc) (hk' : k'.terminal = .doc)
    (hdoc : docText k.lexeme.toList = docText k'.lexeme.toList) : r.step k = r.step k' := by
  have htype : ∀ p : TypePoint, p.step k = none ∧ p.step k' = none := fun p => by simp [TypePoint.step, hk, hk']
  obtain ⟨file, done, point⟩ := r
  cases point with
  | arguments _ _ _ p =>
    cases p <;> simp [step, hk, hk', stepArguments, ArgumentPoint.argument?, ArgumentPoint.step, Token.literal?]
  | named _ kind _ => cases kind <;> simp [step, hk, hk', stepNamed]
  | fields h n taken p => cases p <;> simp [step, hk, hk', hdoc, htype, stepFields, stepField]
  | variants h n taken p => cases p <;> simp [step, hk, hk', hdoc, htype, stepVariant]
  | target h n p => simp [step, hk, hk', hdoc, htype, stepOpening]
  | _ => simp [step, hk, hk', hdoc, stepOpening, stepHeader]

/-! ## Runs -/

namespace Cursor
variable {k : Cursor} {a b s u : List Char} {e e' : SyntaxError}

theorem run_newline : k.run ('\n' :: s) = (k.pass ['\n']).run s := run_skip (u := ['\n']) (.blank rfl)

theorem pass_return : (k.pass (u ++ ['\r'])).pass ['\n'] = (k.pass u).pass ['\n'] := by
  rw [pass, pass, pass, Position.after_append]
  rfl

theorem position_of_stops (h : Stops k a e) (h' : Stops k b e') :
    (k.run a).mapError (·.position) = (k.run b).mapError (·.position) := by
  rw [run_of_stops h, run_of_stops h', Except.mapError, Except.mapError, h.error.1, h'.error.1]

/-- A run takes the same declarations from a text, or ends with an error at the same place, if its lines end with returns. -/
def IgnoresReturns (k : Cursor) (cs : List Char) : Prop :=
  (k.run (withReturns cs)).mapError (·.position) = (k.run cs).mapError (·.position)

/-- A token that ends before the return is taken alike. -/
theorem ignoresReturns_of_token {t : Terminal} (hu : '\n' ∉ u ++ a) (hskip : skipWidth (u ++ (a ++ '\n' :: s)) = 0)
    (hl : k.lex? (u ++ (a ++ '\r' :: '\n' :: withReturns s)) = some (t, u.length))
    (ih : ∀ l : Cursor, l.IgnoresReturns (a ++ '\n' :: s)) : k.IgnoresReturns (u ++ (a ++ '\n' :: s)) := by
  have hl' : k.lex? (u ++ (a ++ '\n' :: s)) = some (t, u.length) := by
    rw [lex?, ← List.append_assoc] at hl ⊢
    exact Terminal.lex?_cut hl (by simp)
  have ha : '\n' ∉ a := fun h => hu (List.mem_append_right u h)
  have hskip' : skipWidth (u ++ (a ++ '\r' :: '\n' :: withReturns s)) = 0 := by
    rw [← List.append_assoc] at hskip ⊢
    exact skipWidth_return hskip
  rw [IgnoresReturns, ← List.append_assoc, withReturns_line hu, List.append_assoc, List.append_assoc]
  cases hst : k.reader.step (k.token t u) with
  | none => exact position_of_stops (.unfit hskip' hl hst) (.unfit hskip hl' hst)
  | some r =>
    rw [run_token hskip' hl, run_token hskip hl', hst]
    dsimp only
    rw [← withReturns_line ha]
    exact ih _

/-- A documentation line goes up to the return or the line feed, and is taken for its text. -/
theorem ignoresReturns_of_doc (hv : '\n' ∉ a) (haccepts : k.reader.context.accepts .doc = true)
    (ih : ∀ l : Cursor, l.IgnoresReturns s) : k.IgnoresReturns ('#' :: ':' :: a ++ '\n' :: s) := by
  have hsolid : Solid .doc ('#' :: ':' :: a) ('\n' :: s) := .doc hv (by simp)
  have hsolid' : Solid .doc ('#' :: ':' :: (a ++ ['\r'])) ('\n' :: withReturns s) := .doc (by simpa using hv) (by simp)
  have hl := hsolid.lexed _ haccepts
  have hl' := hsolid'.lexed _ haccepts
  have hstep : k.reader.step (k.token .doc ('#' :: ':' :: (a ++ ['\r']))) = k.reader.step (k.token .doc ('#' :: ':' :: a)) :=
    Reader.step_doc rfl rfl (by simpa [token] using docText_return)
  have htext : withReturns ('#' :: ':' :: a ++ '\n' :: s) = '#' :: ':' :: (a ++ ['\r']) ++ '\n' :: withReturns s := by
    rw [withReturns_line (by simpa using hv)]
    simp
  rw [IgnoresReturns, htext]
  cases hst : k.reader.step (k.token .doc ('#' :: ':' :: a)) with
  | none => exact position_of_stops (.unfit hsolid'.no_gap hl' (hstep.trans hst)) (.unfit hsolid.no_gap hl hst)
  | some r =>
    rw [run_token hsolid'.no_gap hl', run_token hsolid.no_gap hl, hstep, hst]
    dsimp only
    rw [run_newline, run_newline]
    have hcursor : (⟨r, k.position.after ('#' :: ':' :: (a ++ ['\r'])), k.position⟩ : Cursor).pass ['\n'] =
        (⟨r, k.position.after ('#' :: ':' :: a), k.position⟩ : Cursor).pass ['\n'] :=
      pass_return (k := ⟨r, k.position, k.position⟩) (u := '#' :: ':' :: a)
    rw [hcursor]
    exact ih _

/-- Whatever stands at a place of a line, a run goes on behind it alike or ends there. -/
theorem ignoresReturns_of_skipWidth {v : List Char} (hv : '\n' ∉ v) (hskip : skipWidth (v ++ '\n' :: s) = 0)
    (ih : ∀ (l : Cursor) (cs : List Char), cs.length < (v ++ '\n' :: s).length → l.IgnoresReturns cs) :
    k.IgnoresReturns (v ++ '\n' :: s) := by
  cases hl : k.lex? (v ++ '\r' :: '\n' :: withReturns s) with
  | none =>
    have hl' : k.lex? (v ++ '\n' :: s) = none := Terminal.lex?_cut_none hl
    obtain ⟨c, v, rfl⟩ := List.exists_cons_of_ne_nil (l := v) (by rintro rfl; cases hskip)
    rw [IgnoresReturns, withReturns_line hv]
    exact position_of_stops (.unread (skipWidth_return hskip) hl) (.unread hskip hl')
  | some f =>
    obtain ⟨t, n⟩ := f
    have hm := Terminal.width?_measured t (v ++ '\r' :: '\n' :: withReturns s)
    rw [(Terminal.lex?_eq_some hl).2] at hm
    obtain ⟨u, hu, rfl⟩ := hm
    have hprefix : u <+: v ++ ['\r'] := by
      refine Terminal.prefix_line (s := withReturns s) hu.holds.newline_not_mem ?_
      simpa using hu.isPrefix
    rcases List.prefix_concat_iff.mp hprefix with rfl | ⟨a, rfl⟩
    · obtain rfl := hu.holds.eq_doc
      obtain ⟨a, rfl⟩ : ∃ a, v = '#' :: ':' :: a := by
        obtain ⟨w, hw, -⟩ := hu.holds
        rcases v with _ | ⟨c, _ | ⟨d, a⟩⟩
        · cases hw
        · cases hw
        · cases hw
          exact ⟨a, rfl⟩
      refine ignoresReturns_of_doc (by simpa using hv) (Terminal.lex?_eq_some hl).1 fun l => ih l s ?_
      simp only [List.length_append, List.length_cons]
      omega
    · rw [List.append_assoc] at hskip hl ⊢
      refine ignoresReturns_of_token hv hskip hl fun l => ih l _ ?_
      have hpos := List.length_pos_iff.mpr hu.holds.ne_nil
      simp only [List.length_append]
      omega

theorem ignoresReturns_of_gap (hg : Gap s u) (ih : ∀ (l : Cursor) (cs : List Char), cs.length < (u ++ s).length → l.IgnoresReturns cs) :
    k.IgnoresReturns (u ++ s) := by
  cases hg with
  | @blank c hc =>
    by_cases hn : c = '\n'
    · subst hn
      have hline : withReturns (['\n'] ++ s) = ['\r'] ++ ('\n' :: withReturns s) := withReturns_line (v := []) (by simp)
      rw [IgnoresReturns, hline, run_skip (.blank rfl), run_newline, List.singleton_append, run_newline]
      exact ih (k.pass ['\n']) s (by simp)
    · have hline : withReturns ([c] ++ s) = [c] ++ withReturns s := by
        rw [withReturns_append, withReturns_of_not_mem (by simpa using Ne.symm hn)]
      rw [IgnoresReturns, hline, run_skip (.blank hc), run_skip (.blank hc)]
      exact ih (k.pass [c]) s (by simp)
  | @comment w hw hh hr =>
    have hcomment : '\n' ∉ '#' :: w := by simpa using hw
    cases s with
    | nil => rw [IgnoresReturns, List.append_nil, withReturns_of_not_mem hcomment]
    | cons d s =>
      obtain rfl := hr d rfl
      have hline : withReturns ('#' :: w ++ '\n' :: s) = '#' :: (w ++ ['\r']) ++ '\n' :: withReturns s := by
        rw [withReturns_line hcomment]
        simp
      have hg : Gap ('\n' :: withReturns s) ('#' :: (w ++ ['\r'])) := by
        refine .comment (by simpa using hw) (fun h => ?_) (by simp)
        cases w with
        | nil => cases h
        | cons d w => exact hh h
      rw [IgnoresReturns, hline, run_skip hg, run_newline, run_skip (.comment hw hh hr), run_newline]
      rw [← List.cons_append, pass_return]
      exact ih ((k.pass ('#' :: w)).pass ['\n']) s (by simp; omega)

theorem ignoresReturns (k : Cursor) (cs : List Char) : k.IgnoresReturns cs := by
  -- on the length of the text: what is passed over and every lexeme make it shorter
  induction hn : cs.length using Nat.strong_induction_on generalizing k cs with
  | _ n ih =>
    have hshorter : ∀ (l : Cursor) (ds : List Char), ds.length < cs.length → l.IgnoresReturns ds :=
      fun l ds hds => ih ds.length (hn ▸ hds) l ds rfl
    obtain ⟨v, w, hcs, hv, hw⟩ := exists_line cs
    cases hskip : skipWidth cs with
    | succ m =>
      obtain ⟨u, rest, rfl, -, hg⟩ := exists_gap_of_skipWidth hskip
      exact ignoresReturns_of_gap hg hshorter
    | zero =>
      rw [hcs] at hskip hshorter ⊢
      cases w with
      | nil => rw [IgnoresReturns, List.append_nil, withReturns_of_not_mem hv]
      | cons d s =>
        obtain rfl := hw d rfl
        exact ignoresReturns_of_skipWidth hv hskip hshorter

end Cursor

/-! ## Files -/

/-- The text with a carriage return before every line feed. -/
def withReturnsText (text : String) : String := String.ofList (withReturns text.toList)

theorem readDeclarations_withReturns (text : String) (file : Option String) :
    (readDeclarations (withReturnsText text) file).mapError (·.position) = (readDeclarations text file).mapError (·.position) := by
  have h := (Cursor.start file).ignoresReturns text.toList
  rw [readDeclarations, readDeclarations, withReturnsText, String.toList_ofList]
  exact h

/-- A text whose lines end with a carriage return and a line feed is accepted, with the same declarations at the same places,
or refused for the same reason at the same place, as one whose lines end with the line feed alone. -/
theorem parse_withReturns (text : String) (file : Option String) :
    (parse (withReturnsText text) file).mapError (fun e => (e.category, e.location)) =
      (parse text file).mapError fun e => (e.category, e.location) := by
  have h := readDeclarations_withReturns text file
  unfold parse
  cases hr : readDeclarations text file with
  | ok ds =>
    cases hr' : readDeclarations (withReturnsText text) file with
    | ok ds' =>
      rw [hr, hr'] at h
      rw [Except.ok.inj h]
    | error e' =>
      rw [hr, hr'] at h
      cases h
  | error e =>
    cases hr' : readDeclarations (withReturnsText text) file with
    | ok ds' =>
      rw [hr, hr'] at h
      cases h
    | error e' =>
      rw [hr, hr'] at h
      have hposition : e'.position = e.position := Except.error.inj h
      simp only [Except.mapError, Diagnostic.category, Cause.category, hposition]

end DomainModel
