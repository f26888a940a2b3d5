import DomainModel.Proofs.Source.Completion
import DomainModel.Proofs.Source.Soundness

/-!
# Where a syntax error is reported

`parse_syntactic_error`: the text before the place of a syntax error can still become a file without one, and
the end of the line of the error settles it: no text that agrees so far gets another one. The first part
is `completes`. For the second, neither the scan before the error nor what stands at its place sees past
the end of a line.
-/

namespace DomainModel

/-! ## The text that completes a part of a file -/

def completers : List Terminal :=
  [.name, .synonym, .equals, .openBrace, .closeBrace, .openParen, .closeParen, .closeBracket, .colon]

def Terminal.sample : Terminal → List Char
  | name => ['a']
  | t => t.spelling

def sampleLines (l : List Terminal) : List Char := l.flatMap fun t => t.sample ++ ['\n']

theorem TypePoint.completion_subset (p : TypePoint) : p.completion ⊆ completers := by
  obtain ⟨outer, head⟩ := p
  refine List.append_subset.mpr ⟨?_, fun t ht => ?_⟩
  · cases head <;> simp [completers]
  · simp [List.eq_of_mem_replicate ht, completers]

theorem ArgumentPoint.completion_subset (p : ArgumentPoint) : p.completion ⊆ completers := by
  cases p <;> simp [completion, completers]

theorem FieldPoint.completion_subset (p : FieldPoint) : p.completion ⊆ completers := by
  cases p with
  | typed _ _ _ p => exact p.completion_subset
  | _ => simp [completion, completers]

theorem VariantPoint.completion_subset (p : VariantPoint) : p.completion ⊆ completers := by
  cases p with
  | payload _ _ p => exact List.append_subset.mpr ⟨p.completion_subset, by decide⟩
  | _ => simp [completion, completers]

theorem Point.completion_subset (p : Point) : p.completion ⊆ completers := by
  cases p with
  | arguments _ _ _ p => exact List.append_subset.mpr ⟨p.completion_subset, by decide⟩
  | fields _ _ _ p => exact List.append_subset.mpr ⟨p.completion_subset, by decide⟩
  | variants _ _ _ p => exact List.append_subset.mpr ⟨p.completion_subset, by decide⟩
  | target _ _ p => exact p.completion_subset
  | keyword _ kind => cases kind <;> simp [completion, completers]
  | named _ kind _ => cases kind <;> simp [completion, completers]
  | _ => simp [completion, synonymTokens, completers]

theorem solid_sample {t : Terminal} (h : t ∈ completers) (rest : List Char) : Solid t t.sample ('\n' :: rest) := by
  have hr : WordEnds ('\n' :: rest) := by
    rintro c ⟨⟩
    rfl
  have hsign : ∀ t ∈ completers, t = .name ∨ t = .synonym ∨
      ∃ p ∈ firstCharacters, p.1 = t ∧ t.spelling = [p.2] ∧ t.sample = [p.2] := by decide
  rcases hsign t h with rfl | rfl | ⟨⟨_, a⟩, hf, rfl, hs, he⟩
  · exact .word ⟨'a', [], rfl, rfl, by simp⟩ (by decide) hr
  · exact .keyword (t := .synonym) (by decide) hr
  · rw [he]
    exact .sign hf hs

theorem spells_sampleLines {l : List Terminal} (h : l ⊆ completers) (p : Position) :
    ∃ ts, Spells [] p (sampleLines l) ts ∧ ts.map (·.terminal) = l := by
  induction l generalizing p with
  | nil => exact ⟨[], .done, rfl⟩
  | cons t l ih =>
    obtain ⟨ts, hs, ht⟩ := ih (fun x hx => h (by simp [hx])) (p.after (t.sample ++ ['\n']))
    have hl : Spells (sampleLines l ++ []) p (t.sample ++ ['\n']) ([⟨t, String.ofList t.sample, p⟩] ++ []) :=
      .append (.lexeme (solid_sample (h (by simp)) _)) (.blank rfl)
    exact ⟨_, hl.append hs, by simp [ht]⟩

/-- Wherever a reader is, a text on new lines takes it to the end of a file. -/
theorem exists_completion (k : Cursor) :
    ∃ s ts k' ds, Scans [] k ('\n' :: s) ts k' ∧ k'.reader.finish? = some ds := by
  have hsub := k.reader.point.completion_subset
  obtain ⟨ts, hs, ht⟩ := spells_sampleLines hsub (k.position.after ['\n'])
  obtain ⟨r, ds, hr, hf⟩ := completes k.reader ts ht
  have hspells : Spells [] k.position ('\n' :: sampleLines k.reader.point.completion) ts :=
    .gap (u := ['\n']) (.blank rfl) hs
  obtain ⟨k', hk, rfl⟩ := hspells.scans hr
  exact ⟨_, ts, k', ds, hk, hf⟩

theorem Scans.readable {file : Option String} {a b : List Char} {ts : List Token} {k : Cursor}
    (h : Scans b (.start file) a ts k) : ∃ s, Readable (String.ofList a ++ "\n" ++ s) file := by
  obtain ⟨s, us, k', ds, hs, hf⟩ := exists_completion k
  refine ⟨String.ofList s, readable_iff.mpr ⟨ds, ?_⟩⟩
  have hcut : Scans ('\n' :: s ++ []) (.start file) a ts k := by
    rw [List.append_nil]
    exact Scans.cut (a := []) h
  have htext : (String.ofList a ++ "\n" ++ String.ofList s).toList = a ++ '\n' :: s := by simp
  rw [readDeclarations, htext]
  exact (Cursor.run_eq_ok_iff (k := .start file)).mpr ⟨_, k', hcut.append hs, hf⟩

/-! ## The lines that settle an error -/

/-- The first lines of a text, each with its line feed; a last line that has none gets one. -/
def linesThrough : Nat → List Char → List Char
  | 0, _ => []
  | _ + 1, [] => ['\n']
  | n + 1, c :: cs => if c = '\n' then c :: linesThrough n cs else c :: linesThrough (n + 1) cs

theorem line_after (p : Position) (cs : List Char) : (p.after cs).line = p.line + cs.count '\n' := by
  induction cs generalizing p with
  | nil => rfl
  | cons c cs ih =>
    rw [Position.after_cons, ih, Position.next, List.count_cons]
    by_cases hc : c = '\n'
    · simp [hc]; omega
    · simp [hc]

theorem linesThrough_append {v w : List Char} (hv : '\n' ∉ v) (hw : ∀ c ∈ w.head?, c = '\n') (a : List Char) :
    linesThrough (a.count '\n' + 1) (a ++ (v ++ w)) = a ++ (v ++ ['\n']) := by
  induction a with
  | cons c a ih =>
    by_cases hc : c = '\n'
    · subst hc
      simp only [List.cons_append, List.count_cons_self, linesThrough, if_true, ih]
    · simp only [List.cons_append, List.count_cons_of_ne hc, linesThrough, if_neg hc, ih]
  | nil =>
    induction v with
    | nil =>
      cases w with
      | nil => rfl
      | cons c w =>
        obtain rfl := hw c rfl
        simp [linesThrough]
    | cons c v ih =>
      have hc : c ≠ '\n' := fun he => hv (by simp [he])
      have := ih fun hm => hv (by simp [hm])
      simp only [List.nil_append, List.count_nil, List.cons_append, linesThrough, if_neg hc] at this ⊢
      rw [this]

/-! ## Stops within a line -/

section
variable {v w s u : List Char} {c : Char}

theorem prefix_of_line (hu : '\n' ∉ u) (hw : ∀ c ∈ w.head?, c = '\n') (h : u <+: v ++ w) : u <+: v := by
  cases w with
  | nil => rwa [List.append_nil] at h
  | cons c w =>
    obtain rfl := hw c rfl
    exact Terminal.prefix_line hu h

theorem skipWidth_line (hw : ∀ c ∈ w.head?, c = '\n') (h : skipWidth (c :: (v ++ w)) = 0) :
    skipWidth (c :: (v ++ '\n' :: s)) = 0 := by
  rw [skipWidth] at h ⊢
  by_cases hb : isBlank c = true
  · rw [if_pos hb] at h
    cases h
  · rw [if_neg hb] at h ⊢
    by_cases hc : c = '#'
    · subst hc
      cases v with
      | nil =>
        cases w with
        | nil => cases h
        | cons d w =>
          obtain rfl := hw d rfl
          cases h
      | cons d v =>
        by_cases hd : d = ':'
        · subst hd
          rfl
        · unfold commentWidth at h
          split at h
          · next he => exact absurd (List.cons.inj (List.cons.inj he).2).1 hd
          · cases h
          · next hno => exact absurd rfl (hno _)
    · unfold commentWidth
      split
      · rfl
      · next he => exact absurd (List.cons.inj he).1 hc
      · rfl

theorem width_le_line {accepts : Terminal → Bool} {t : Terminal} {n : Nat} (hw : ∀ c ∈ w.head?, c = '\n')
    (h : Terminal.lex? accepts (v ++ w) = some (t, n)) : n ≤ v.length := by
  have hm := Terminal.width?_measured t (v ++ w)
  rw [(Terminal.lex?_eq_some h).2] at hm
  obtain ⟨u, hu, rfl⟩ := hm
  exact (prefix_of_line hu.holds.newline_not_mem hw hu.isPrefix).length_le

theorem refuse_line (p : Position) (hw : ∀ c ∈ w.head?, c = '\n') :
    Reader.refuse p c (v ++ '\n' :: s) = Reader.refuse p c (v ++ w) := by
  unfold Reader.refuse
  cases hl : Terminal.lex? (fun _ => true) (c :: (v ++ w)) with
  | none => rw [← List.cons_append, Terminal.lex?_cut_none (b := w) (by rwa [List.cons_append])]
  | some f =>
    obtain ⟨t, n⟩ := f
    rw [← List.cons_append] at hl
    have hn := width_le_line hw hl
    rw [← List.cons_append, Terminal.lex?_cut hl hn]
    simp only [← List.cons_append, List.take_append_of_le_length hn]

/-- A run that stops within a line stops there whatever stands on the lines behind. -/
theorem Stops.line {k : Cursor} {e : SyntaxError} (hw : ∀ c ∈ w.head?, c = '\n') (h : Stops k (v ++ w) e) :
    Stops k (v ++ '\n' :: s) e := by
  generalize hb : v ++ w = b at h
  cases h with
  | @unread c cs h0 hl =>
    cases v with
    | nil =>
      -- a line feed is passed over, so that nothing stops at the end of the line
      obtain rfl := hw c (by rw [List.nil_append] at hb; rw [hb]; rfl)
      cases h0
    | cons d v =>
      obtain rfl : d = c := (List.cons.inj hb).1
      obtain rfl : v ++ w = cs := (List.cons.inj hb).2
      rw [← refuse_line (s := s) k.position hw]
      exact .unread (skipWidth_line hw h0) (Terminal.lex?_cut_none (a := d :: v) hl)
  | @unfit u cs t h0 hl hs =>
    have hu := Terminal.heads_of_lex? hl
    rw [← hb] at hu
    obtain ⟨v', rfl⟩ := prefix_of_line hu.holds.newline_not_mem hw hu.isPrefix
    obtain rfl : v' ++ w = cs := by simpa using hb
    rw [List.append_assoc]
    refine .unfit ?_ ?_ hs
    · obtain ⟨c, u, rfl⟩ := List.exists_cons_of_ne_nil hu.holds.ne_nil
      rw [List.cons_append, ← List.append_assoc] at h0 ⊢
      exact skipWidth_line hw h0
    · rw [Cursor.lex?, ← List.append_assoc] at hl ⊢
      exact Terminal.lex?_cut hl (by simp)

end

/-! ## The place of an error -/

theorem exists_line (cs : List Char) : ∃ v w, cs = v ++ w ∧ '\n' ∉ v ∧ ∀ c ∈ w.head?, c = '\n' := by
  obtain ⟨v, w, rfl, -, hv, hw⟩ := Terminal.exists_run (· ≠ '\n') cs
  exact ⟨v, w, rfl, fun h => by simpa using hv _ h, fun c hc => by simpa using hw c hc⟩

/-- A run that stops gives the same error for every text that agrees up to the end of its line. -/
theorem Scans.run_of_lines {file : Option String} {a b : List Char} {ts : List Token} {k : Cursor}
    {e : SyntaxError} {text : List Char} (h : Scans b (.start file) a ts k) (he : Stops k b e)
    (ht : linesThrough (Position.start.after a).line (a ++ b) <+: text) :
    (Cursor.start file).run text = .error e := by
  obtain ⟨v, w, rfl, hv, hw⟩ := exists_line b
  rw [line_after, Nat.add_comm] at ht
  obtain ⟨s, rfl⟩ := (linesThrough_append hv hw a) ▸ ht
  have hs : Scans (v ++ '\n' :: s) (.start file) a ts k := h.cut
  have : a ++ (v ++ ['\n']) ++ s = a ++ (v ++ '\n' :: s) := by simp
  rw [this, hs.run_eq]
  exact Cursor.run_of_stops (he.line hw)

theorem parse_eq_error {text : String} {file : Option String} {e : Diagnostic} {fault : SyntaxFault}
    (h : parse text file = .error e) (hf : e.cause = .syntactic fault) :
    ∃ p, e = ⟨.syntactic fault, some (.ofPosition file p)⟩ ∧
      (Cursor.start file).run text.toList = .error ⟨fault, p⟩ := by
  cases hr : readDeclarations text file with
  | ok ds =>
    rw [parse_of_read hr] at h
    cases hc : Naming.check ds with
    | ok => rw [hc] at h; cases h
    | error e' =>
      rw [hc] at h
      cases h
      have := Naming.check_category hc
      rw [Diagnostic.category, hf] at this
      cases this
  | error e' =>
    rw [parse, hr] at h
    cases h
    cases hf
    exact ⟨e'.position, rfl, hr⟩

theorem Stops.error {k : Cursor} {cs : List Char} {e : SyntaxError} (h : Stops k cs e) :
    e.position = k.position ∧ e.fault ≠ .unexpectedEnd := by
  cases h with
  | unread =>
    unfold Reader.refuse
    split
    · exact ⟨rfl, fun h => nomatch h⟩
    · exact ⟨rfl, fun h => nomatch h⟩
  | unfit => exact ⟨rfl, fun h => nomatch h⟩

theorem parse_syntactic_error {text : String} {file : Option String} {e : Diagnostic}
    (h : parse text file = .error e) :
    (e.cause = .syntactic .unexpectedEnd → ∃ s, Readable (text ++ "\n" ++ s) file) ∧
    ∀ fault, e.cause = .syntactic fault → fault ≠ .unexpectedEnd →
      ∃ a b p, text.toList = a ++ b ∧ p = Position.start.after a ∧
        e.location = some (.ofPosition file p) ∧ (∃ s, Readable (String.ofList a ++ "\n" ++ s) file) ∧
        ∀ text' : String, linesThrough p.line text.toList <+: text'.toList → parse text' file = .error e := by
  constructor
  · intro hf
    obtain ⟨p, rfl, hr⟩ := parse_eq_error h hf
    rcases Cursor.run_eq_error hr with ⟨ts, k, hs, -⟩ | ⟨a, b, ts, k, -, -, he⟩
    · obtain ⟨s, hread⟩ := hs.readable
      rw [String.ofList_toList] at hread
      exact ⟨s, hread⟩
    · exact absurd rfl he.error.2
  · intro fault hf hne
    obtain ⟨p, rfl, hr⟩ := parse_eq_error h hf
    rcases Cursor.run_eq_error hr with ⟨ts, k, -, hend⟩ | ⟨a, b, ts, k, hab, hs, he⟩
    · exact absurd hend hne
    · have hp : p = Position.start.after a := he.error.1.trans hs.position_eq
      refine ⟨a, b, p, hab, hp, rfl, hs.readable, fun text' ht => ?_⟩
      rw [hab, hp] at ht
      have hr' : readDeclarations text' file = .error ⟨fault, p⟩ := hs.run_of_lines he ht
      rw [parse, hr']

/-- Two lines settle that the second one is wrong. -/
theorem parse_syntactic_error_field :
    parse "record A \x7b\n  x y\n\x7d" none = .error ⟨.syntactic (.unexpectedToken "y"), some ⟨2, 5, none⟩⟩ ∧
      ∀ text' : String, "record A \x7b\n  x y\n".toList <+: text'.toList →
        parse text' none = .error ⟨.syntactic (.unexpectedToken "y"), some ⟨2, 5, none⟩⟩ := by
  have h : parse "record A \x7b\n  x y\n\x7d" none =
      .error ⟨.syntactic (.unexpectedToken "y"), some ⟨2, 5, none⟩⟩ := by cbv
  refine ⟨h, fun text' ht => ?_⟩
  obtain ⟨a, b, p, -, -, hp, -, hall⟩ := (parse_syntactic_error h).2 _ rfl (by
    intro he
    cases he)
  have hline : p.line = 2 := by
    have := congrArg Location.line (Option.some.inj hp)
    exact Int.ofNat.inj this.symm
  refine hall text' ?_
  rw [hline]
  exact ht

end DomainModel
