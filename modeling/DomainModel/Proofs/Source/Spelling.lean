import DomainModel.Proofs.Source.Scan

/-!
# Texts that spell tokens

`Spells rest p cs ts` says that the text `cs`, with `rest` behind it, is made up of gaps and of the
lexemes of `ts`, each of which is found in every context that accepts its terminal. A reader takes
only tokens that its context accepts (`Reader.accepts_of_step`), so that it scans such a text as
the tokens that it spells (`Spells.scans`).
-/

namespace DomainModel

/-! ## The tokens that a reader takes -/

theorem Context.accepts_iff {c : Context} {t : Terminal} : c.accepts t = true ↔ t ∈ c.terminals := by
  simp [Context.accepts]

theorem TypePoint.accepts_of_step {p p' : TypePoint} {k : Token} (h : p.step k = some p') :
    p.context.accepts k.terminal = true := by
  obtain ⟨outer, head⟩ := p
  unfold TypePoint.step at h
  cases head <;> cases ht : k.terminal <;> first | rfl | simp [ht, inner?] at h

def behindType : List Terminal :=
  [.closeParen, .closeBrace, .doc, .atSign, .record, .sum, .synonym, .pub, .name]

theorem TypePoint.accepts_of_type? {p : TypePoint} {t : TypeRef} {k : Terminal} (h : p.type? = some t)
    (hk : k ∈ behindType) : p.context.accepts k = true := by
  obtain ⟨outer, head⟩ := p
  cases outer with
  | cons => cases h
  | nil =>
    have hsub : ∀ c ∈ [Context.afterTypeName, .afterTypeArguments], ∀ k ∈ behindType, c.accepts k = true := by
      decide
    cases head with
    | expected => cases h
    | dotted => cases h
    | named => exact hsub .afterTypeName (by simp) k hk
    | closed => exact hsub .afterTypeArguments (by simp) k hk

theorem ArgumentPoint.accepts_of_step {p p' : ArgumentPoint} {k : Token} (h : p.step k = some p') :
    p.context.accepts k.terminal = true := by
  cases p <;> cases ht : k.terminal <;> first | rfl | simp [step, Token.literal?, ht] at h

theorem ArgumentPoint.accepts_of_argument? {p : ArgumentPoint} {a : Argument} {k : Terminal}
    (h : p.argument? = some a) (hk : k ∈ [Terminal.closeParen, .comma]) : p.context.accepts k = true := by
  have hsub : ∀ c ∈ [Context.afterWord, .afterValue], ∀ k ∈ [Terminal.closeParen, .comma],
      c.accepts k = true := by decide
  cases p with
  | word => exact hsub .afterWord (by simp) k hk
  | complete => exact hsub .afterValue (by simp) k hk
  | _ => cases h

namespace Reader
variable {r r' : Reader} {k : Token}

theorem mem_of_stepHeader {h : Header} (hs : r.stepHeader h k = some r') :
    k.terminal ∈ [Terminal.atSign, .record, .sum, .synonym] := by
  unfold stepHeader at hs
  split at hs
  · next ht => simp [ht]
  · next ht => simp [ht]
  · next ht => simp [ht]
  · next ht => simp [ht]
  · cases hs

theorem mem_of_stepOpening {docs : List String} (hs : r.stepOpening docs k = some r') :
    k.terminal ∈ [Terminal.doc, .atSign, .record, .sum, .synonym] := by
  unfold stepOpening at hs
  split at hs
  · next ht => simp [ht]
  · exact List.mem_cons_of_mem _ (mem_of_stepHeader hs)

theorem mem_of_stepField {h : Header} {n : Named} {taken : List Field} {docs : List String}
    (hs : r.stepField h n taken docs k = some r') : k.terminal ∈ [Terminal.doc, .pub, .name] := by
  unfold stepField at hs
  split at hs
  · next ht => simp [ht]
  · next ht => simp [ht]
  · next ht => simp [ht]
  · cases hs

theorem mem_of_stepFields {h : Header} {n : Named} {taken : List Field}
    (hs : r.stepFields h n taken k = some r') : k.terminal ∈ [Terminal.closeBrace, .doc, .pub, .name] := by
  unfold stepFields at hs
  split at hs
  · next ht => simp [ht]
  · exact List.mem_cons_of_mem _ (mem_of_stepField hs)

theorem mem_of_stepVariant {h : Header} {n : Named} {taken : List Variant} {docs : List String}
    (hs : r.stepVariant h n taken docs k = some r') : k.terminal ∈ [Terminal.doc, .name] := by
  unfold stepVariant at hs
  split at hs
  · next ht => simp [ht]
  · next ht => simp [ht]
  · cases hs

theorem accepts_of_mem {c : Context} {l : List Terminal} (hk : k.terminal ∈ l)
    (hl : ∀ t ∈ l, c.accepts t = true) : c.accepts k.terminal = true := hl _ hk

theorem accepts_of_only {c : Context} {t : Terminal} {x : Option Reader} (ht : c.accepts t = true)
    (hs : (if k.terminal = t then x else none) = some r') : c.accepts k.terminal = true := by
  by_cases hk : k.terminal = t
  · rw [hk]
    exact ht
  · rw [if_neg hk] at hs
    cases hs

theorem accepts_of_arguments {h : Header} {n : Named} {taken : List Argument} {p : ArgumentPoint}
    (hs : r.stepArguments h n taken p k = some r') : p.context.accepts k.terminal = true := by
  unfold stepArguments at hs
  split at hs
  · next ht => exact ht ▸ rfl
  · next ht _ ha => exact ArgumentPoint.accepts_of_argument? ha (by simp [ht])
  · next ht ha => exact ArgumentPoint.accepts_of_argument? ha (by simp [ht])
  · obtain ⟨p', hp, -⟩ := Option.map_eq_some_iff.mp hs
    exact ArgumentPoint.accepts_of_step hp

theorem accepts_of_named {h : Header} {kind : Kind} {n : Named} (hs : r.stepNamed h kind n k = some r') :
    Context.afterName.accepts k.terminal = true := by
  unfold stepNamed at hs
  split at hs
  · next ht => exact ht ▸ rfl
  · next ht => exact ht ▸ rfl
  · next ht => exact ht ▸ rfl
  · cases hs

theorem accepts_of_fields {h : Header} {n : Named} {taken : List Field} {p : FieldPoint}
    (hs : (r.move (.fields h n taken p)).step k = some r') : p.context.accepts k.terminal = true := by
  cases p with
  | start => exact accepts_of_mem (c := .fields) (mem_of_stepFields hs) (by decide)
  | documented docs => exact accepts_of_mem (c := .afterDoc) (mem_of_stepField hs) (by decide)
  | exposed docs => exact accepts_of_only (c := .nameOnly) rfl hs
  | named docs v f => exact accepts_of_only (c := .afterName) rfl hs
  | typed docs v f p =>
    simp only [step, move] at hs
    split at hs
    · next hp => exact TypePoint.accepts_of_step hp
    · next ht =>
      exact accepts_of_mem (mem_of_stepFields hs) fun t hm =>
        TypePoint.accepts_of_type? ht (by revert t; decide)
    · cases hs

theorem accepts_of_variants {h : Header} {n : Named} {taken : List Variant} {p : VariantPoint}
    (hs : (r.move (.variants h n taken p)).step k = some r') : p.context.accepts k.terminal = true := by
  cases p with
  | start =>
    simp only [step, move] at hs
    split at hs
    · next ht => exact ht ▸ rfl
    · exact accepts_of_mem (c := .variants) (mem_of_stepVariant hs) (by decide)
  | documented docs => exact accepts_of_mem (c := .afterDoc) (mem_of_stepVariant hs) (by decide)
  | named docs v => exact accepts_of_only (c := .afterName) rfl hs
  | payload docs v p =>
    simp only [step, move] at hs
    split at hs
    · next hp => exact TypePoint.accepts_of_step hp
    · next ht hk => exact TypePoint.accepts_of_type? ht (by rw [hk]; decide)
    · cases hs

theorem accepts_of_target {h : Header} {n : Named} {p : TypePoint}
    (hs : (r.move (.target h n p)).step k = some r') : p.context.accepts k.terminal = true := by
  simp only [step, move] at hs
  split at hs
  · next hp => exact TypePoint.accepts_of_step hp
  · next ht =>
    exact accepts_of_mem (mem_of_stepOpening hs) fun t hm =>
      TypePoint.accepts_of_type? ht (by revert t; decide)
  · cases hs

/-- A reader takes only what its context accepts. -/
theorem accepts_of_step (hs : r.step k = some r') : r.context.accepts k.terminal = true := by
  obtain ⟨file, done, point⟩ := r
  cases point with
  | opening => exact accepts_of_mem (c := .topLevel) (mem_of_stepOpening hs) (by decide)
  | documented docs => exact accepts_of_mem (c := .afterDoc) (mem_of_stepOpening hs) (by decide)
  | directiveSign h => exact accepts_of_only (c := .nameOnly) rfl hs
  | directiveNamed h n =>
    simp only [step] at hs
    split at hs
    · next ht => exact ht ▸ rfl
    · exact accepts_of_mem (c := .afterName) (mem_of_stepHeader hs) (by decide)
  | arguments h n taken p => exact accepts_of_arguments hs
  | directed h => exact accepts_of_mem (c := .afterDirective) (mem_of_stepHeader hs) (by decide)
  | keyword h kind => exact accepts_of_only (c := .nameOnly) rfl hs
  | named h kind n => exact accepts_of_named hs
  | fields h n taken p => exact accepts_of_fields (r := ⟨file, done, .opening⟩) hs
  | variants h n taken p => exact accepts_of_variants (r := ⟨file, done, .opening⟩) hs
  | target h n p => exact accepts_of_target (r := ⟨file, done, .opening⟩) hs

end Reader

/-! ## The terminal at the head of a text -/

namespace Terminal

def opens : Terminal → Char → Bool
  | name, c => Word.isStart c
  | doc, c => c = '#'
  | number, c => c.isDigit || c = '+' || c = '-' || c = '.'
  | string, c => c = '"'
  | t, c => t.spelling.head? = some c

theorem opens_number_of_unsigned {c : Char} {w : List Char} (h : IsUnsigned (c :: w)) :
    opens number c = true := by
  generalize hx : c :: w = x at h
  cases h with
  | @whole d e hd hne _ =>
    cases d with
    | nil => exact absurd rfl hne
    | cons c' d => cases hx; simp [opens, hd c (by simp)]
  | @decimal a b e ha _ _ _ =>
    cases a with
    | nil => cases hx; rfl
    | cons c' a => cases hx; simp [opens, ha c (by simp)]

theorem Matches.opens {t : Terminal} {c : Char} {w : List Char} (h : t.Matches (c :: w)) :
    t.opens c = true := by
  cases t with
  | name => obtain ⟨_, _, he, hc, -⟩ := h; cases he; exact hc
  | doc => obtain ⟨_, he, -⟩ := h; cases he; rfl
  | string => obtain ⟨_, he, -⟩ := h; cases he; rfl
  | number =>
    obtain ⟨s, u, he, hs, hu⟩ := h
    cases hs with
    | none => cases he; exact opens_number_of_unsigned hu
    | plus => cases he; rfl
    | minus => cases he; rfl
  | _ => cases h; rfl

theorem width?_of_not_opens {t : Terminal} {c : Char} {cs : List Char} (h : t.opens c = false) :
    t.width? (c :: cs) = none := by
  have hm := width?_measured t (c :: cs)
  cases hw : t.width? (c :: cs) with
  | none => rfl
  | some n =>
    rw [hw] at hm
    obtain ⟨u, hu, -⟩ := hm
    cases u with
    | nil => exact absurd rfl hu.holds.ne_nil
    | cons d u =>
      obtain rfl := (List.cons_prefix_cons.mp hu.isPrefix).1
      rw [hu.holds.opens] at h
      cases h

theorem mem_inOrder (t : Terminal) : t ∈ inOrder := by
  cases t <;> decide

theorem first?_of_only {l : List Terminal} {t : Terminal} {cs : List Char} {n : Nat} (ht : t ∈ l)
    (hw : t.width? cs = some n) (ho : ∀ x ∈ l, x ≠ t → x.width? cs = none) : first? l cs = some (t, n) := by
  induction l with
  | nil => cases ht
  | cons x l ih =>
    rw [first?, List.findSome?_cons]
    by_cases hx : x = t
    · subst hx
      rw [hw]
      rfl
    · rw [ho x (by simp) hx]
      exact ih ((List.mem_cons.mp ht).resolve_left (Ne.symm hx)) fun y hy => ho y (by simp [hy])

section
variable {c : Context} {t : Terminal} {a : Char} {w rest : List Char}

theorem lex?_of_opens {n : Nat} (hc : c.accepts t = true) (hn : t ≠ name) (hw : t.width? (a :: w) = some n)
    (ho : ∀ x ∈ c.terminals, x ≠ t → x.opens a = false) : lex? c.accepts (a :: w) = some (t, n) := by
  rw [lex?_eq, first?_of_only (List.mem_filter.mpr ⟨mem_inOrder t, hc⟩) hw, Option.map_some, if_neg hn]
  intro x hx hne
  exact width?_of_not_opens (ho x (Context.accepts_iff.mp (List.mem_filter.mp hx).2) hne)

theorem lex?_of_word {n : Nat} (hc : c.accepts name = true) (hw : name.width? w = some n) :
    lex? c.accepts w = some (ofWord c.accepts (w.take n), n) := by
  rw [lex?_eq, inOrder, List.filter_cons_of_pos hc, first?, List.findSome?_cons, hw]
  rfl

end

end Terminal

/-! ## Lexemes that every context finds -/

/-- Before `rest`, the word `u` is the lexeme of `t` in every context that accepts `t`. -/
structure Solid (t : Terminal) (u rest : List Char) : Prop where
  no_gap : skipWidth (u ++ rest) = 0
  lexed : ∀ c : Context, c.accepts t = true → Terminal.lex? c.accepts (u ++ rest) = some (t, u.length)

/-- A word ends here. -/
def WordEnds (rest : List Char) : Prop := ∀ c ∈ rest.head?, Word.isPart c = false

theorem Terminal.Heads.wordEnds {u rest : List Char} (h : Terminal.Heads Terminal.name.Matches (u ++ rest) u) :
    WordEnds rest := by
  intro d hd
  refine Decidable.byContradiction fun hpart => ?_
  obtain ⟨rest, rfl⟩ : ∃ rest', rest = d :: rest' := List.head?_eq_some_iff.mp hd
  obtain ⟨c, w, rfl, hc, hw⟩ := h.holds
  have hlong := h.longest (c :: (w ++ [d])) ⟨rest, by simp⟩ ⟨c, w ++ [d], rfl, hc, fun x hx => ?_⟩
  · simp only [List.length_cons, List.length_append, List.length_nil] at hlong
    omega
  · rcases List.mem_append.mp hx with hx | hx
    · exact hw x hx
    · rw [List.mem_singleton.mp hx]
      simpa using hpart

theorem Terminal.Heads.line_end {u rest : List Char} (h : Terminal.Heads Terminal.doc.Matches (u ++ rest) u) :
    ∀ c ∈ rest.head?, c = '\n' := by
  intro c hc
  refine Decidable.byContradiction fun hn => ?_
  obtain ⟨rest, rfl⟩ : ∃ rest', rest = c :: rest' := List.head?_eq_some_iff.mp hc
  obtain ⟨w, rfl, hw⟩ := h.holds
  have hlong := h.longest ('#' :: ':' :: (w ++ [c])) ⟨rest, by simp⟩ ⟨_, rfl, by simp [hw, Ne.symm hn]⟩
  simp only [List.length_cons, List.length_append, List.length_nil] at hlong
  omega

def contexts : List Context :=
  [.topLevel, .afterDoc, .nameOnly, .afterName, .afterDirective, .arguments, .argumentValue, .afterWord,
   .afterValue, .afterTypeName, .afterTypeArguments, .fields, .variants]

theorem mem_contexts (c : Context) : c ∈ contexts := by
  cases c <;> decide

/-- The terminals whose lexemes all start with the same character. -/
def firstCharacters : List (Terminal × Char) :=
  [(.record, 'r'), (.sum, 's'), (.synonym, 'a'), (.pub, 'p'), (.doc, '#'), (.string, '"'), (.atSign, '@'),
   (.openBrace, '\x7b'), (.closeBrace, '\x7d'), (.openParen, '('), (.closeParen, ')'),
   (.openBracket, '['), (.closeBracket, ']'), (.comma, ','), (.colon, ':'), (.equals, '='), (.dot, '.')]

/-- No other terminal that may stand there has the same first character, but for names, which keywords
are told from by the whole word. -/
theorem not_opens (c : Context) {t : Terminal} {a : Char} (ht : (t, a) ∈ firstCharacters)
    (hc : c.accepts t = true) (hn : t ∈ Terminal.keywords → c.accepts .name = false) :
    ∀ x ∈ c.terminals, x ≠ t → x.opens a = false := by
  have key : ∀ c ∈ contexts, ∀ p ∈ firstCharacters, c.accepts p.1 = true →
      (p.1 ∈ Terminal.keywords → c.accepts .name = false) →
      ∀ x ∈ c.terminals, x ≠ p.1 → x.opens p.2 = false := by decide
  exact key c (mem_contexts c) _ ht hc hn

theorem skipWidth_of_not_blank {a : Char} {cs : List Char} (hb : isBlank a = false) (ha : a ≠ '#') :
    skipWidth (a :: cs) = 0 := by
  rw [skipWidth, if_neg (by simp [hb]), commentWidth]
  · intro _ h
    exact ha (List.cons.inj h).1
  · intro _ h
    exact ha (List.cons.inj h).1

theorem Terminal.matches_name_of_keyword {t : Terminal} (ht : t ∈ Terminal.keywords) :
    Terminal.name.Matches t.spelling := by
  have key : ∀ k ∈ Terminal.keywords, Word.isStart (k.spelling.headD ' ') = true ∧
      k.spelling.tail.all Word.isPart = true ∧ k.spelling ≠ [] := by decide
  obtain ⟨h₁, h₂, h₃⟩ := key t ht
  obtain ⟨c, cs, he⟩ := List.exists_cons_of_ne_nil h₃
  rw [he] at h₁ h₂ ⊢
  exact ⟨c, cs, rfl, h₁, List.all_eq_true.mp h₂⟩

theorem Terminal.lex?_of_keyword {c : Context} {t : Terminal} {rest : List Char} (hk : t ∈ keywords) (hc : c.accepts t = true)
    (hn : c.accepts name = false) : lex? c.accepts (t.spelling ++ rest) = some (t, t.spelling.length) := by
  have hs : t.width? (t.spelling ++ rest) = some t.spelling.length := by
    rw [width?_of_mem_keywords hk, spellingWidth?, if_pos]
    exact List.isPrefixOf_iff_prefix.mpr (List.prefix_append _ _)
  have hf : ∀ k ∈ keywords, (k, k.spelling.headD ' ') ∈ firstCharacters ∧ k ≠ name := by decide
  obtain ⟨a, u, he, -, -⟩ := matches_name_of_keyword hk
  obtain ⟨hf, hne⟩ := hf t hk
  rw [he] at hs hf ⊢
  exact lex?_of_opens hc hne hs (not_opens c hf hc fun _ => hn)

namespace Solid
variable {t : Terminal} {a : Char} {u w rest : List Char}

theorem of_first {n : Nat} (ht : (t, a) ∈ firstCharacters) (hk : t ∉ Terminal.keywords)
    (h0 : skipWidth (a :: (u ++ rest)) = 0) (hw : t.width? (a :: (u ++ rest)) = some n)
    (hn : n = u.length + 1) : Solid t (a :: u) rest := by
  subst hn
  refine ⟨h0, fun c hc => ?_⟩
  refine Terminal.lex?_of_opens hc ?_ hw (not_opens c ht hc fun h => absurd h hk)
  rintro rfl
  simp [firstCharacters] at ht

theorem sign (ht : (t, a) ∈ firstCharacters) (hs : t.spelling = [a]) : Solid t [a] rest := by
  have key : ∀ p ∈ firstCharacters, p.1.spelling = [p.2] →
      p.1 ∉ Terminal.keywords ∧ isBlank p.2 = false ∧ p.2 ≠ '#' ∧
        p.1 ∉ [Terminal.name, .doc, .number, .string] := by decide
  obtain ⟨hk, hb, ha, hc⟩ := key _ ht hs
  refine of_first ht hk (skipWidth_of_not_blank hb ha) ?_ rfl
  have hw : t.width? (a :: rest) = Terminal.spellingWidth? t.spelling (a :: rest) := by
    cases t <;> first | rfl | simp at hc
  simp [hw, Terminal.spellingWidth?, hs]

theorem doc (hw : '\n' ∉ w) (hr : ∀ c ∈ rest.head?, c = '\n') : Solid .doc ('#' :: ':' :: w) rest := by
  refine of_first (by decide) (by decide) rfl ?_ rfl
  simp [Terminal.width?, Terminal.docWidth?, lineWidth_append hw hr]

theorem quoted (hw : Terminal.IsQuoted w) : Solid .string ('"' :: w) rest := by
  have hwidth : Terminal.closingWidth? false (w ++ rest) = some w.length := by
    induction hw with
    | close => rfl
    | plain hq hb hn _ ih => simp [Terminal.closingWidth?, hq, hb, hn, ih]
    | @escaped c cs hn _ ih => simp [Terminal.closingWidth?, hn, ih]
  refine of_first (by decide) (by decide) (skipWidth_of_not_blank rfl (by decide)) ?_ rfl
  simp [Terminal.width?, Terminal.stringWidth?, hwidth]

theorem wordWidth?_append (hw : Terminal.name.Matches w) (hr : WordEnds rest) :
    Terminal.name.width? (w ++ rest) = some w.length := by
  obtain ⟨c, cs, rfl, hc, hcs⟩ := hw
  rw [Terminal.width?, List.cons_append, Word.width?, if_pos hc, Terminal.takeWhile_run hcs hr]
  rfl

theorem skipWidth_word (hw : Terminal.name.Matches w) : skipWidth (w ++ rest) = 0 := by
  obtain ⟨c, cs, rfl, hc, -⟩ := hw
  refine skipWidth_of_not_blank ?_ ?_
  · cases hb : isBlank c with
    | false => rfl
    | true =>
      simp only [isBlank, Bool.or_eq_true, decide_eq_true_eq] at hb
      rcases hb with (((rfl | rfl) | rfl) | rfl) | rfl <;> cases hc
  · rintro rfl
    cases hc

theorem word (hw : Terminal.name.Matches w) (hk : ∀ k ∈ Terminal.keywords, k.spelling ≠ w)
    (hr : WordEnds rest) : Solid .name w rest := by
  refine ⟨skipWidth_word hw, fun c hc => ?_⟩
  rw [Terminal.lex?_of_word hc (wordWidth?_append hw hr), List.take_left, Terminal.ofWord,
    List.find?_eq_none.mpr]
  · rfl
  · intro k hm
    simp [hk k hm]

theorem keyword (hk : t ∈ Terminal.keywords) (hr : WordEnds rest) : Solid t t.spelling rest := by
  have hm := Terminal.matches_name_of_keyword hk
  refine ⟨skipWidth_word hm, fun c hc => ?_⟩
  cases hn : c.accepts .name with
  | true =>
    have hw : ∀ c ∈ contexts, ∀ k ∈ Terminal.keywords, c.accepts k = true →
        Terminal.ofWord c.accepts k.spelling = k := by decide
    rw [Terminal.lex?_of_word hn (wordWidth?_append hm hr), List.take_left, hw c (mem_contexts c) t hk hc]
  | false => exact Terminal.lex?_of_keyword hk hc hn

theorem not_isStart_of_isDigit (h : a.isDigit = true) : Word.isStart a = false := by
  rw [← Bool.not_eq_true]
  intro hs
  have hle : a.val.toNat ≤ 57 := UInt32.le_iff_toNat_le.mp (of_decide_eq_true (Bool.and_eq_true_iff.mp h).2)
  rcases Bool.or_eq_true_iff.mp hs with hs | hs
  · rcases Bool.or_eq_true_iff.mp hs with hs | hs
    · have : 65 ≤ a.val.toNat := UInt32.le_iff_toNat_le.mp (of_decide_eq_true hs).1
      omega
    · have : 97 ≤ a.val.toNat := UInt32.le_iff_toNat_le.mp (of_decide_eq_true (Bool.and_eq_true_iff.mp hs).1)
      omega
  · rw [of_decide_eq_true hs] at hle
    revert hle
    decide

section
variable {s d : List Char}

theorem unsignedWidth?_integer (hd : Terminal.IsDigits d) (hne : d ≠ []) (hr : WordEnds rest)
    (hdot : rest.head? ≠ some '.') : Terminal.unsignedWidth? (d ++ rest) = some d.length := by
  have hend : ∀ c ∈ rest.head?, c.isDigit = false ∧ ¬(c = 'e' ∨ c = 'E') := by
    intro c hc
    have := hr c hc
    simp only [Word.isPart, Char.isAlphanum, Bool.or_eq_false_iff] at this
    refine ⟨this.1.2, ?_⟩
    rintro (rfl | rfl) <;> cases this.1.1
  have hlen : Terminal.digitsWidth (d ++ rest) = d.length := by
    rw [Terminal.digitsWidth, Terminal.takeWhile_run hd fun c hc => (hend c hc).1]
  have hpos : d.length ≠ 0 := fun h => hne (List.length_eq_zero_iff.mp h)
  rw [Terminal.unsignedWidth?, hlen, List.drop_left]
  cases rest with
  | nil => simp [hpos, Terminal.exponentWidth]
  | cons c rest =>
    have hc : c ≠ '.' := fun h => hdot (by rw [h]; rfl)
    simp [hc, hpos, Terminal.exponentWidth, if_neg (hend c rfl).2]

theorem integer_head (hs : Terminal.IsSign s) (hd : Terminal.IsDigits d) (hne : d ≠ []) :
    ∃ a w, s ++ d = a :: w ∧ (a.isDigit = true ∨ a = '+' ∨ a = '-') := by
  cases hs with
  | plus => exact ⟨_, _, rfl, .inr (.inl rfl)⟩
  | minus => exact ⟨_, _, rfl, .inr (.inr rfl)⟩
  | none =>
    obtain ⟨c, d, rfl⟩ := List.exists_cons_of_ne_nil hne
    exact ⟨c, d, rfl, .inl (hd c (by simp))⟩

theorem numberWidth?_integer (hs : Terminal.IsSign s) (hd : Terminal.IsDigits d) (hne : d ≠ [])
    (hr : WordEnds rest) (hdot : rest.head? ≠ some '.') :
    Terminal.number.width? (s ++ d ++ rest) = some (s ++ d).length := by
  have hsign : Terminal.signWidth (s ++ (d ++ rest)) = s.length := by
    cases hs with
    | plus => rfl
    | minus => rfl
    | none =>
      obtain ⟨c, d, rfl⟩ := List.exists_cons_of_ne_nil hne
      obtain ⟨hp, hm⟩ := Terminal.not_sign_of_isDigit (hd c (by simp))
      rw [List.nil_append, List.cons_append, Terminal.signWidth]
      · rfl
      · exact fun _ h => hp (List.cons.inj h).1
      · exact fun _ h => hm (List.cons.inj h).1
  rw [Terminal.width?, List.append_assoc, Terminal.numberWidth?, hsign, List.drop_left,
    unsignedWidth?_integer hd hne hr hdot, Option.map_some, List.length_append]

theorem integer (hs : Terminal.IsSign s) (hd : Terminal.IsDigits d) (hne : d ≠ []) (hr : WordEnds rest)
    (hdot : rest.head? ≠ some '.') : Solid .number (s ++ d) rest := by
  have hwidth := numberWidth?_integer hs hd hne hr hdot
  obtain ⟨a, w, he, ha⟩ := integer_head hs hd hne
  have hother : ∀ b : Char, b.isDigit = false → b ≠ '+' → b ≠ '-' → a ≠ b := by
    rintro b hb hp hm rfl
    rcases ha with h | h | h
    · rw [h] at hb; cases hb
    · exact hp h
    · exact hm h
  rw [he] at hwidth ⊢
  refine ⟨skipWidth_of_not_blank ?_ (hother '#' rfl (by decide) (by decide)), fun c hc => ?_⟩
  · simp [isBlank, hother ' ' rfl (by decide) (by decide), hother '\t' rfl (by decide) (by decide),
      hother '\x0c' rfl (by decide) (by decide), hother '\r' rfl (by decide) (by decide),
      hother '\n' rfl (by decide) (by decide)]
  · refine Terminal.lex?_of_opens hc (by decide) hwidth fun x hx hne => ?_
    have hl : ∀ c ∈ contexts, c.accepts .number = true → ∀ x ∈ c.terminals, x ≠ .number →
        x ∈ [Terminal.closeParen, .name, .string] := by decide
    have hmem := hl c (mem_contexts c) hc x hx hne
    simp only [List.mem_cons, List.not_mem_nil, or_false] at hmem
    rcases hmem with rfl | rfl | rfl
    · simpa [Terminal.opens, Terminal.spelling] using (hother ')' rfl (by decide) (by decide)).symm
    · rcases ha with h | rfl | rfl
      · exact not_isStart_of_isDigit h
      · rfl
      · rfl
    · simpa [Terminal.opens] using hother '"' rfl (by decide) (by decide)

end

end Solid

/-! ## Spelling -/

/-- A text with `rest` behind it, as gaps and lexemes. -/
inductive Spells (rest : List Char) : Position → List Char → List Token → Prop
  | done {p : Position} : Spells rest p [] []
  | gap {p : Position} {u cs : List Char} {ts : List Token} : Gap (cs ++ rest) u →
      Spells rest (p.after u) cs ts → Spells rest p (u ++ cs) ts
  | token {p : Position} {t : Terminal} {u cs : List Char} {ts : List Token} : Solid t u (cs ++ rest) →
      Spells rest (p.after u) cs ts → Spells rest p (u ++ cs) (⟨t, String.ofList u, p⟩ :: ts)

namespace Spells
variable {rest a b cs u : List Char} {p : Position} {ts us : List Token} {t : Terminal}

theorem append (h : Spells (b ++ rest) p a ts) (h' : Spells rest (p.after a) b us) :
    Spells rest p (a ++ b) (ts ++ us) := by
  induction h with
  | done => exact h'
  | gap hg _ ih =>
    rw [List.append_assoc]
    rw [Position.after_append] at h'
    exact .gap (by rwa [List.append_assoc]) (ih h')
  | token hs _ ih =>
    rw [List.append_assoc, List.cons_append]
    rw [Position.after_append] at h'
    exact .token (by rwa [List.append_assoc]) (ih h')

theorem blank {c : Char} (hc : isBlank c = true) : Spells rest p [c] [] :=
  .gap (u := [c]) (.blank hc) .done

theorem blanks (h : ∀ c ∈ cs, isBlank c = true) : Spells rest p cs [] := by
  induction cs generalizing p with
  | nil => exact .done
  | cons c cs ih => exact .gap (u := [c]) (.blank (h c (by simp))) (ih fun d hd => h d (by simp [hd]))

theorem lexeme (h : Solid t u rest) : Spells rest p u [⟨t, String.ofList u, p⟩] := by
  have hs : Spells rest p (u ++ []) [⟨t, String.ofList u, p⟩] := .token h .done
  rwa [List.append_nil] at hs

/-- A reader that takes the tokens scans the text as them. -/
theorem scans {k : Cursor} {r : Reader} (h : Spells rest k.position cs ts)
    (hs : k.reader.steps ts = some r) : ∃ k', Scans rest k cs ts k' ∧ k'.reader = r := by
  generalize hp : k.position = p at h
  induction h generalizing k with
  | done => exact ⟨k, .done, Option.some.inj hs⟩
  | @gap p u cs ts hg _ ih =>
    obtain ⟨k', hk, hr⟩ := ih (k := k.pass u) hs (by rw [Cursor.pass, hp])
    exact ⟨k', .skip hg hk, hr⟩
  | @token p t u cs ts hsolid _ ih =>
    subst hp
    obtain ⟨r₁, h₁, hs⟩ := Option.bind_eq_some_iff.mp hs
    obtain ⟨k', hk, hr⟩ := ih (k := ⟨r₁, k.position.after u, k.position⟩) hs rfl
    -- the reader takes the token, so its context accepts it, and there the lexeme is found
    exact ⟨k', .take hsolid.no_gap (hsolid.lexed _ (Reader.accepts_of_step h₁)) h₁ hk, hr⟩

end Spells

end DomainModel
