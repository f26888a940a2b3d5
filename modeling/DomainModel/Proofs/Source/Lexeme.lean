import DomainModel.Source.Terminal

/-!
# Lexemes

`Matches t w` says which words are lexemes of the terminal `t`, by the regular expressions of the
grammar. The scanner takes the longest of them at the head of a text (`width?_measured`), and no
lexeme runs over the end of its line (`newline_not_mem`). What the scanner finds therefore does not
depend on anything behind the line feed (`width?_cut`).
-/

namespace DomainModel.Terminal

/-! ## The words of a terminal -/

def IsDigits (w : List Char) : Prop := ∀ c ∈ w, c.isDigit = true

inductive IsSign : List Char → Prop
  | none : IsSign []
  | plus : IsSign ['+']
  | minus : IsSign ['-']

/-- `("e"|"E") ["+"|"-"] DIGIT+`, or nothing. -/
inductive IsExponent : List Char → Prop
  | none : IsExponent []
  | mk {e : Char} {s d : List Char} : e = 'e' ∨ e = 'E' → IsSign s → IsDigits d → d ≠ [] →
      IsExponent (e :: (s ++ d))

inductive IsUnsigned : List Char → Prop
  | whole {d e : List Char} : IsDigits d → d ≠ [] → IsExponent e → IsUnsigned (d ++ e)
  | decimal {a b e : List Char} : IsDigits a → IsDigits b → a ++ b ≠ [] → IsExponent e →
      IsUnsigned (a ++ '.' :: (b ++ e))

/-- What stands behind the opening quote of a string. A backslash takes the next character with it,
whatever that is; nothing runs over the end of the line. -/
inductive IsQuoted : List Char → Prop
  | close : IsQuoted ['"']
  | plain {c : Char} {cs : List Char} : c ≠ '"' → c ≠ '\\' → c ≠ '\n' → IsQuoted cs →
      IsQuoted (c :: cs)
  | escaped {c : Char} {cs : List Char} : c ≠ '\n' → IsQuoted cs → IsQuoted ('\\' :: c :: cs)

def Matches : Terminal → List Char → Prop
  | name, w => ∃ c cs, w = c :: cs ∧ Word.isStart c = true ∧ ∀ x ∈ cs, Word.isPart x = true
  | doc, w => ∃ cs, w = '#' :: ':' :: cs ∧ '\n' ∉ cs
  | number, w => ∃ s u, w = s ++ u ∧ IsSign s ∧ IsUnsigned u
  | string, w => ∃ cs, w = '"' :: cs ∧ IsQuoted cs
  | t, w => w = t.spelling

/-! ## Longest prefixes -/

/-- `u` is the longest word of a language at the head of a text. -/
structure Heads (P : List Char → Prop) (cs u : List Char) : Prop where
  isPrefix : u <+: cs
  holds : P u
  longest : ∀ v, v <+: cs → P v → v.length ≤ u.length

/-- The length of the longest word of a language at the head of a text, if there is one. -/
def Measured (n? : Option Nat) (P : List Char → Prop) (cs : List Char) : Prop :=
  match n? with
  | some n => ∃ u, Heads P cs u ∧ u.length = n
  | none => ∀ v, v <+: cs → ¬P v

theorem Measured.append {n? : Option Nat} {P Q : List Char → Prop} {s cs : List Char}
    (h : Measured n? Q cs) (hP : ∀ v, v <+: s ++ cs → P v → ∃ w, v = s ++ w ∧ Q w)
    (hQ : ∀ w, Q w → P (s ++ w)) : Measured (n?.map (s.length + ·)) P (s ++ cs) := by
  cases n? with
  | none =>
    intro v hv hPv
    obtain ⟨w, rfl, hw⟩ := hP v hv hPv
    exact h w (List.prefix_append_right_inj s |>.mp hv) hw
  | some n =>
    obtain ⟨u, hu, rfl⟩ := h
    refine ⟨s ++ u, ⟨(List.prefix_append_right_inj s).mpr hu.isPrefix, hQ u hu.holds, ?_⟩, by simp⟩
    intro v hv hPv
    obtain ⟨w, rfl, hw⟩ := hP v hv hPv
    have := hu.longest w ((List.prefix_append_right_inj s).mp hv) hw
    simp only [List.length_append]; omega

section
variable {p : Char → Bool} {a r x y cs : List Char} {c : Char}

theorem length_le_of_prefix_run (hx : ∀ c ∈ x, p c = true) (hr : ∀ c ∈ r.head?, p c = false)
    (h : x <+: a ++ r) : x.length ≤ a.length := by
  induction x generalizing a with
  | nil => exact Nat.zero_le _
  | cons d x ih =>
    cases a with
    | nil =>
      cases r with
      | nil => simp at h
      | cons b r =>
        have hd : d = b := (List.cons_prefix_cons.mp h).1
        have := hr b rfl
        rw [← hd, hx d (by simp)] at this
        cases this
    | cons b a =>
      have := ih (fun c hc => hx c (by simp [hc])) (List.cons_prefix_cons.mp h).2
      simpa using this

theorem prefix_run_end (ha : ∀ c ∈ a, p c = true) (hr : ∀ c ∈ r.head?, p c = false)
    (hx : ∀ c ∈ x, p c = true) (hc : p c = false) (h : x ++ c :: y <+: a ++ r) :
    x = a ∧ c :: y <+: r := by
  induction x generalizing a with
  | nil =>
    cases a with
    | nil => exact ⟨rfl, h⟩
    | cons b a =>
      have hb : c = b := (List.cons_prefix_cons.mp h).1
      rw [hb, ha b (by simp)] at hc
      cases hc
  | cons d x ih =>
    cases a with
    | nil =>
      cases r with
      | nil => simp at h
      | cons b r =>
        have hd : d = b := (List.cons_prefix_cons.mp h).1
        have := hr b rfl
        rw [← hd, hx d (by simp)] at this
        cases this
    | cons b a =>
      obtain ⟨hd, ht⟩ := List.cons_prefix_cons.mp h
      obtain ⟨hxa, hr⟩ := ih (fun c hc => ha c (by simp [hc])) (fun c hc => hx c (by simp [hc])) ht
      exact ⟨by rw [hd, hxa], hr⟩

end

theorem exists_run (p : Char → Bool) (cs : List Char) :
    ∃ a r, cs = a ++ r ∧ cs.takeWhile p = a ∧ (∀ c ∈ a, p c = true) ∧ ∀ c ∈ r.head?, p c = false := by
  refine ⟨cs.takeWhile p, cs.dropWhile p, List.takeWhile_append_dropWhile.symm, rfl, ?_, ?_⟩
  · intro c hc
    exact List.all_eq_true.mp List.all_takeWhile c hc
  · intro c hc
    have := List.head?_dropWhile_not p cs
    rw [Option.mem_def.mp hc] at this
    simpa using this

theorem takeWhile_run {p : Char → Bool} {a r : List Char} (ha : ∀ c ∈ a, p c = true)
    (hr : ∀ c ∈ r.head?, p c = false) : (a ++ r).takeWhile p = a := by
  rw [List.takeWhile_append_of_pos ha]
  cases r with
  | nil => simp
  | cons c r => simp [hr c rfl]

/-! ## Numbers -/

theorem exists_digits (cs : List Char) :
    ∃ a r, cs = a ++ r ∧ digitsWidth cs = a.length ∧ IsDigits a ∧ ∀ c ∈ r.head?, c.isDigit = false := by
  obtain ⟨a, r, hcs, ha, hall, hr⟩ := exists_run Char.isDigit cs
  exact ⟨a, r, hcs, by rw [digitsWidth, ha], hall, hr⟩

theorem exists_sign (cs : List Char) :
    ∃ s r, cs = s ++ r ∧ signWidth cs = s.length ∧ IsSign s ∧
      ∀ {s' c y}, IsSign s' → c ≠ '+' → c ≠ '-' → s' ++ c :: y <+: cs → s' = s ∧ c :: y <+: r := by
  unfold signWidth
  split
  · next r =>
    refine ⟨['+'], r, rfl, rfl, .plus, fun hs hp hm h => ?_⟩
    cases hs with
    | none => exact absurd (List.cons_prefix_cons.mp h).1 hp
    | plus => exact ⟨rfl, (List.cons_prefix_cons.mp h).2⟩
    | minus => exact absurd (List.cons_prefix_cons.mp h).1 (by decide)
  · next r =>
    refine ⟨['-'], r, rfl, rfl, .minus, fun hs hp hm h => ?_⟩
    cases hs with
    | none => exact absurd (List.cons_prefix_cons.mp h).1 hm
    | plus => exact absurd (List.cons_prefix_cons.mp h).1 (by decide)
    | minus => exact ⟨rfl, (List.cons_prefix_cons.mp h).2⟩
  · next hp hm =>
    refine ⟨[], cs, rfl, rfl, .none, fun {s' c y} hs _ _ h => ?_⟩
    cases hs with
    | none => exact ⟨rfl, h⟩
    | plus =>
      obtain ⟨t, rfl⟩ := h
      exact absurd rfl (hp _)
    | minus =>
      obtain ⟨t, rfl⟩ := h
      exact absurd rfl (hm _)

theorem not_sign_of_isDigit {c : Char} (h : c.isDigit = true) : c ≠ '+' ∧ c ≠ '-' := by
  constructor <;> rintro rfl <;> cases h

theorem exponentWidth_spec (cs : List Char) :
    ∃ u, Heads IsExponent cs u ∧ u.length = exponentWidth cs := by
  have nothing : (∀ v, v <+: cs → IsExponent v → v = []) → ∃ u, Heads IsExponent cs u ∧ u.length = 0 :=
    fun h => ⟨[], ⟨List.nil_prefix, .none, fun v hv hP => by simp [h v hv hP]⟩, rfl⟩
  cases cs with
  | nil => exact nothing fun v hv _ => List.prefix_nil.mp hv
  | cons e cs =>
    by_cases he : e = 'e' ∨ e = 'E'
    · obtain ⟨s, r, rfl, hw, hs, huniq⟩ := exists_sign cs
      obtain ⟨d, t, rfl, hdw, hd, ht⟩ := exists_digits r
      have hwidth : exponentWidth (e :: (s ++ (d ++ t))) =
          if d.length = 0 then 0 else 1 + s.length + d.length := by
        simp only [exponentWidth, he, hw, List.drop_left, hdw, if_true]
      -- an exponent at the head has this sign, and its digits are among these
      have digits : ∀ {s' d'}, IsSign s' → IsDigits d' → d' ≠ [] →
          s' ++ d' <+: s ++ (d ++ t) → s' = s ∧ d'.length ≤ d.length := by
        intro s' d' hs' hd' hne h
        cases d' with
        | nil => exact absurd rfl hne
        | cons c y =>
          obtain ⟨hp, hm⟩ := not_sign_of_isDigit (hd' c (by simp))
          obtain ⟨rfl, hr⟩ := huniq hs' hp hm h
          exact ⟨rfl, length_le_of_prefix_run hd' ht hr⟩
      rw [hwidth]
      by_cases hne : d = []
      · subst hne
        refine nothing fun v hv hP => ?_
        cases hP with
        | none => rfl
        | mk he' hs' hd' hne' =>
          have := (digits hs' hd' hne' (List.cons_prefix_cons.mp hv).2).2
          exact absurd (List.eq_nil_of_length_eq_zero (by simpa using this)) hne'
      · have : d.length ≠ 0 := fun h => hne (List.eq_nil_of_length_eq_zero h)
        rw [if_neg this]
        refine ⟨e :: (s ++ d), ⟨⟨t, by simp⟩, .mk he hs hd hne, fun v hv hP => ?_⟩, by simp; omega⟩
        cases hP with
        | none => simp
        | mk he' hs' hd' hne' =>
          obtain ⟨rfl, hl⟩ := digits hs' hd' hne' (List.cons_prefix_cons.mp hv).2
          simp [hl]
    · rw [exponentWidth, if_neg he]
      refine nothing fun v hv hP => ?_
      cases hP with
      | none => rfl
      | mk he' _ _ _ => exact absurd ((List.cons_prefix_cons.mp hv).1 ▸ he') he

theorem length_digits_exponent {a r u d e : List Char} (ha : IsDigits a)
    (hr : ∀ c ∈ r.head?, c.isDigit = false) (hu : Heads IsExponent r u) (hd : IsDigits d)
    (he : IsExponent e) (h : d ++ e <+: a ++ r) :
    d.length ≤ a.length ∧ (d ++ e).length ≤ a.length + u.length := by
  cases he with
  | none =>
    rw [List.append_nil] at h ⊢
    have := length_le_of_prefix_run hd hr h
    exact ⟨this, by omega⟩
  | @mk c s x hc hs hx hne =>
    have hcd : c.isDigit = false := by rcases hc with rfl | rfl <;> rfl
    obtain ⟨rfl, hr⟩ := prefix_run_end ha hr hd hcd h
    have := hu.longest _ hr (.mk hc hs hx hne)
    exact ⟨Nat.le_refl _, by rw [List.length_append]; omega⟩

theorem not_exponent_of_head {c : Char} {cs u : List Char} (hc : ¬(c = 'e' ∨ c = 'E'))
    (h : Heads IsExponent (c :: cs) u) : u = [] := by
  have hp := h.isPrefix
  cases h.holds with
  | none => rfl
  | mk he _ _ _ => exact absurd ((List.cons_prefix_cons.mp hp).1 ▸ he) hc

theorem unsignedWidth?_point {a rest : List Char} (ha : IsDigits a)
    (haw : digitsWidth (a ++ '.' :: rest) = a.length) :
    Measured (unsignedWidth? (a ++ '.' :: rest)) IsUnsigned (a ++ '.' :: rest) := by
  obtain ⟨b, r, rfl, hbw, hb, hr⟩ := exists_digits rest
  obtain ⟨x, hx, hxw⟩ := exponentWidth_spec r
  have hpoint : ∀ c ∈ ('.' :: (b ++ r)).head?, c.isDigit = false := by simp
  have hnone : Heads IsExponent ('.' :: (b ++ r)) [] := by
    obtain ⟨u, hu, -⟩ := exponentWidth_spec ('.' :: (b ++ r))
    exact not_exponent_of_head (by decide) hu ▸ hu
  -- whatever is a number here either ends before the point or goes on behind it
  have bound : ∀ v, v <+: a ++ '.' :: (b ++ r) → IsUnsigned v →
      a ++ b ≠ [] ∧ v.length ≤ a.length + 1 + b.length + x.length := by
    intro v hv hP
    cases hP with
    | @whole d e hd hne he =>
      obtain ⟨h1, h2⟩ := length_digits_exponent ha hpoint hnone hd he hv
      refine ⟨fun h => hne ?_, by simp at h2 ⊢; omega⟩
      rw [(List.append_eq_nil_iff.mp h).1] at h1
      exact List.eq_nil_of_length_eq_zero (by simpa using h1)
    | @decimal a' b' e ha' hb' hne he =>
      obtain ⟨rfl, hrest⟩ := prefix_run_end ha hpoint ha' (by decide) hv
      obtain ⟨h1, h2⟩ := length_digits_exponent hb hr hx hb' he (List.cons_prefix_cons.mp hrest).2
      refine ⟨fun h => hne ?_, by simp at h2 ⊢; omega⟩
      obtain ⟨ha, hb⟩ := List.append_eq_nil_iff.mp h
      rw [hb] at h1
      rw [ha, List.nil_append]
      exact List.eq_nil_of_length_eq_zero (by simpa using h1)
  simp only [unsignedWidth?, haw, List.drop_left, hbw, ← hxw]
  by_cases h0 : a.length + b.length = 0
  · rw [if_pos h0]
    intro v hv hP
    refine (bound v hv hP).1 ?_
    rw [List.append_eq_nil_iff]
    exact ⟨List.eq_nil_of_length_eq_zero (by omega), List.eq_nil_of_length_eq_zero (by omega)⟩
  · rw [if_neg h0]
    have hne : a ++ b ≠ [] := fun h => h0 (by rw [← List.length_append, h]; rfl)
    obtain ⟨t, ht⟩ := hx.isPrefix
    refine ⟨a ++ '.' :: (b ++ x), ⟨⟨t, by simp [ht]⟩, .decimal ha hb hne hx.holds, ?_⟩, ?_⟩
    · intro v hv hP
      have := (bound v hv hP).2
      simp; omega
    · simp; omega

theorem unsignedWidth?_whole {a r : List Char} (ha : IsDigits a)
    (haw : digitsWidth (a ++ r) = a.length) (hr : ∀ c ∈ r.head?, c.isDigit = false)
    (hpoint : ∀ rest, r ≠ '.' :: rest) :
    Measured (unsignedWidth? (a ++ r)) IsUnsigned (a ++ r) := by
  obtain ⟨x, hx, hxw⟩ := exponentWidth_spec r
  have bound : ∀ v, v <+: a ++ r → IsUnsigned v → a ≠ [] ∧ v.length ≤ a.length + x.length := by
    intro v hv hP
    cases hP with
    | @whole d e hd hne he =>
      obtain ⟨h1, h2⟩ := length_digits_exponent ha hr hx hd he hv
      refine ⟨fun h => hne ?_, h2⟩
      rw [h] at h1
      exact List.eq_nil_of_length_eq_zero (by simpa using h1)
    | @decimal a' b' e ha' hb' hne he =>
      obtain ⟨t, ht⟩ := (prefix_run_end ha hr ha' (by decide) hv).2
      exact absurd ht.symm (hpoint _)
  have hwidth : unsignedWidth? (a ++ r) =
      if a.length = 0 then none else some (a.length + x.length) := by
    unfold unsignedWidth?
    simp only [haw, List.drop_left, hxw]
  rw [hwidth]
  by_cases h0 : a.length = 0
  · rw [if_pos h0]
    exact fun v hv hP => (bound v hv hP).1 (List.eq_nil_of_length_eq_zero h0)
  · rw [if_neg h0]
    obtain ⟨t, ht⟩ := hx.isPrefix
    refine ⟨a ++ x, ⟨⟨t, by simp [ht]⟩, .whole ha (fun h => h0 (by simp [h])) hx.holds, ?_⟩, by simp⟩
    exact fun v hv hP => by simpa using (bound v hv hP).2

theorem unsignedWidth?_measured (cs : List Char) : Measured (unsignedWidth? cs) IsUnsigned cs := by
  obtain ⟨a, r, rfl, haw, ha, hr⟩ := exists_digits cs
  by_cases h : ∃ rest, r = '.' :: rest
  · obtain ⟨rest, rfl⟩ := h
    exact unsignedWidth?_point ha haw
  · exact unsignedWidth?_whole ha haw hr fun rest hrest => h ⟨rest, hrest⟩

theorem unsigned_head {u : List Char} (h : IsUnsigned u) :
    ∃ c y, u = c :: y ∧ c ≠ '+' ∧ c ≠ '-' := by
  cases h with
  | @whole d e hd hne he =>
    cases d with
    | nil => exact absurd rfl hne
    | cons c d => exact ⟨c, d ++ e, rfl, not_sign_of_isDigit (hd c (by simp))⟩
  | @decimal a b e ha hb hne he =>
    cases a with
    | nil => exact ⟨'.', b ++ e, rfl, by decide, by decide⟩
    | cons c a => exact ⟨c, a ++ '.' :: (b ++ e), rfl, not_sign_of_isDigit (ha c (by simp))⟩

theorem numberWidth?_measured (cs : List Char) : Measured (numberWidth? cs) (Matches .number) cs := by
  obtain ⟨s, r, rfl, hw, hs, huniq⟩ := exists_sign cs
  rw [numberWidth?, hw, List.drop_left]
  refine (unsignedWidth?_measured r).append ?_ fun w hw => ⟨s, w, rfl, hs, hw⟩
  rintro v hv ⟨s', u, rfl, hs', hu⟩
  obtain ⟨c, y, rfl, hp, hm⟩ := unsigned_head hu
  obtain ⟨rfl, -⟩ := huniq hs' hp hm hv
  exact ⟨c :: y, rfl, hu⟩

/-! ## Words, documentation lines and strings -/

theorem run_measured (p : Char → Bool) (cs : List Char) :
    Measured (some (cs.takeWhile p).length) (fun w => ∀ c ∈ w, p c = true) cs := by
  obtain ⟨a, r, rfl, ha, hall, hr⟩ := exists_run p cs
  exact ⟨a, ⟨List.prefix_append a r, hall, fun v hv hP => length_le_of_prefix_run hP hr hv⟩, by rw [ha]⟩

theorem wordWidth?_measured (cs : List Char) : Measured (Word.width? cs) (Matches .name) cs := by
  cases cs with
  | nil =>
    rintro v hv ⟨c, w, rfl, -, -⟩
    exact absurd (List.prefix_nil.mp hv) (by simp)
  | cons c cs =>
    rw [Word.width?]
    by_cases hc : Word.isStart c = true
    · rw [if_pos hc, Nat.add_comm]
      refine (run_measured Word.isPart cs).append (s := [c]) ?_ fun w hw => ⟨c, w, rfl, hc, hw⟩
      rintro v hv ⟨d, w, rfl, -, hw⟩
      obtain rfl := (List.cons_prefix_cons.mp hv).1
      exact ⟨w, rfl, hw⟩
    · rw [if_neg hc]
      rintro v hv ⟨d, w, rfl, hd, -⟩
      obtain rfl := (List.cons_prefix_cons.mp hv).1
      exact hc hd

theorem docWidth?_measured (cs : List Char) : Measured (docWidth? cs) (Matches .doc) cs := by
  unfold docWidth?
  split
  · next cs =>
    rw [Nat.add_comm]
    refine (run_measured (· ≠ '\n') cs).append (s := ['#', ':']) ?_ ?_
    · rintro v hv ⟨w, rfl, hw⟩
      refine ⟨w, rfl, fun c hc => ?_⟩
      have : c ≠ '\n' := fun h => hw (h ▸ hc)
      simpa using this
    · exact fun w hw => ⟨w, rfl, fun h => by simpa using hw _ h⟩
  · next hno =>
    rintro v ⟨t, rfl⟩ ⟨w, rfl, -⟩
    exact hno _ rfl

/-- The words behind a quote or, if the character before was a backslash, behind that. -/
def QuotedFrom (escaped : Bool) (w : List Char) : Prop :=
  if escaped then ∃ c cs, w = c :: cs ∧ c ≠ '\n' ∧ IsQuoted cs else IsQuoted w

theorem not_quotedFrom_nil (escaped : Bool) : ¬QuotedFrom escaped [] := by
  cases escaped with
  | false => exact fun h => nomatch h
  | true => exact fun ⟨_, _, h, _⟩ => nomatch h

theorem quotedFrom_cons_iff {escaped : Bool} {c : Char} {w : List Char} (hn : c ≠ '\n')
    (hq : ¬(c = '"' ∧ ¬escaped)) :
    QuotedFrom escaped (c :: w) ↔ QuotedFrom (c = '\\' && !escaped) w := by
  cases escaped with
  | true =>
    simp only [QuotedFrom, Bool.not_true, Bool.and_false, if_true, Bool.false_eq_true, if_false]
    exact ⟨fun ⟨_, _, h, _, hw⟩ => (List.cons.inj h).2 ▸ hw, fun h => ⟨c, w, rfl, hn, h⟩⟩
  | false =>
    by_cases hb : c = '\\'
    · subst hb
      simp only [QuotedFrom, Bool.not_false, Bool.and_true, decide_true, if_true, Bool.false_eq_true,
        if_false]
      constructor
      · intro h
        cases h with
        | plain _ hb _ _ => exact absurd rfl hb
        | escaped hn hw => exact ⟨_, _, rfl, hn, hw⟩
      · rintro ⟨d, cs, rfl, hd, hw⟩
        exact .escaped hd hw
    · simp only [QuotedFrom, hb, decide_false, Bool.false_and, Bool.false_eq_true, if_false]
      have hq' : c ≠ '"' := fun h => hq ⟨h, by simp⟩
      constructor
      · intro h
        cases h with
        | close => exact absurd rfl hq'
        | plain _ _ _ hw => exact hw
        | escaped _ _ => exact absurd rfl hb
      · exact .plain hq' hb hn

theorem closingWidth?_measured (escaped : Bool) (cs : List Char) :
    Measured (closingWidth? escaped cs) (QuotedFrom escaped) cs := by
  induction cs generalizing escaped with
  | nil => exact fun v hv h => not_quotedFrom_nil escaped (List.prefix_nil.mp hv ▸ h)
  | cons c cs ih =>
    unfold closingWidth?
    by_cases hn : c = '\n'
    · rw [if_pos hn]
      intro v hv h
      cases v with
      | nil => exact not_quotedFrom_nil escaped h
      | cons d w =>
        obtain rfl := (List.cons_prefix_cons.mp hv).1
        subst hn
        cases escaped with
        | true =>
          obtain ⟨_, _, he, hn, _⟩ := h
          exact hn (List.cons.inj he).1.symm
        | false => cases h with | plain _ _ hn _ => exact hn rfl
    · rw [if_neg hn]
      by_cases hq : c = '"' ∧ ¬escaped
      · rw [if_pos hq]
        obtain ⟨rfl, he⟩ := hq
        obtain rfl : escaped = false := by simpa using he
        refine ⟨['"'], ⟨⟨cs, rfl⟩, .close, fun v hv h => ?_⟩, rfl⟩
        cases h with
        | close => exact Nat.le_refl _
        | plain hq _ _ _ => exact absurd (List.cons_prefix_cons.mp hv).1 hq
        | escaped _ _ => exact absurd (List.cons_prefix_cons.mp hv).1 (by decide)
      · rw [if_neg hq]
        have := (ih (c = '\\' && !escaped)).append (P := QuotedFrom escaped) (s := [c]) ?_
          fun w hw => (quotedFrom_cons_iff hn hq).mpr hw
        · simpa [Nat.add_comm] using this
        · intro v hv h
          cases v with
          | nil => exact absurd h (not_quotedFrom_nil escaped)
          | cons d w =>
            obtain rfl := (List.cons_prefix_cons.mp hv).1
            exact ⟨w, rfl, (quotedFrom_cons_iff hn hq).mp h⟩

theorem stringWidth?_measured (cs : List Char) : Measured (stringWidth? cs) (Matches .string) cs := by
  unfold stringWidth?
  split
  · next cs =>
    have := (closingWidth?_measured false cs).append (P := Matches .string) (s := ['"']) ?_
      fun w hw => ⟨w, rfl, hw⟩
    · simpa [Nat.add_comm] using this
    · rintro v hv ⟨w, rfl, hw⟩
      exact ⟨w, rfl, hw⟩
  · next hno =>
    rintro v ⟨t, rfl⟩ ⟨w, rfl, -⟩
    exact hno _ rfl

theorem spellingWidth?_measured (s cs : List Char) : Measured (spellingWidth? s cs) (· = s) cs := by
  unfold spellingWidth?
  by_cases h : s.isPrefixOf cs = true
  · rw [if_pos h]
    exact ⟨s, ⟨List.isPrefixOf_iff_prefix.mp h, rfl, fun v _ hv => Nat.le_of_eq (congrArg _ hv)⟩, rfl⟩
  · rw [if_neg h]
    rintro v hv rfl
    exact h (List.isPrefixOf_iff_prefix.mpr hv)

/-- The scanner takes the longest lexeme of a terminal at the head of a text. -/
theorem width?_measured (t : Terminal) (cs : List Char) : Measured (t.width? cs) t.Matches cs := by
  cases t with
  | name => exact wordWidth?_measured cs
  | doc => exact docWidth?_measured cs
  | number => exact numberWidth?_measured cs
  | string => exact stringWidth?_measured cs
  | _ => exact spellingWidth?_measured _ cs

/-! ## Lines -/

theorem Matches.ne_nil {t : Terminal} {w : List Char} (h : t.Matches w) : w ≠ [] := by
  rintro rfl
  cases t with
  | name => obtain ⟨_, _, h, _⟩ := h; cases h
  | doc => obtain ⟨_, h, _⟩ := h; cases h
  | string => obtain ⟨_, h, _⟩ := h; cases h
  | number =>
    obtain ⟨s, u, hsu, -, hu⟩ := h
    obtain ⟨c, y, rfl, -⟩ := unsigned_head hu
    simp at hsu
  | _ => cases h

def IsNumeric (c : Char) : Prop := c.isDigit = true ∨ c ∈ ['+', '-', '.', 'e', 'E']

theorem numeric_of_sign {w : List Char} (h : IsSign w) : ∀ c ∈ w, IsNumeric c := by
  cases h <;> simp [IsNumeric]

theorem numeric_of_exponent {w : List Char} (h : IsExponent w) : ∀ c ∈ w, IsNumeric c := by
  cases h with
  | none => simp
  | @mk e s d he hs hd _ =>
    intro c hc
    rcases List.mem_cons.mp hc with rfl | hc
    · exact .inr (by rcases he with rfl | rfl <;> simp)
    · exact (List.mem_append.mp hc).elim (numeric_of_sign hs c) fun h => .inl (hd c h)

theorem numeric_of_number {w : List Char} (h : Matches number w) : ∀ c ∈ w, IsNumeric c := by
  obtain ⟨s, u, rfl, hs, hu⟩ := h
  intro c hc
  rcases List.mem_append.mp hc with hc | hc
  · exact numeric_of_sign hs c hc
  · cases hu with
    | whole hd _ he => exact (List.mem_append.mp hc).elim (fun h => .inl (hd c h)) (numeric_of_exponent he c)
    | decimal ha hb _ he =>
      rcases List.mem_append.mp hc with hc | hc
      · exact .inl (ha c hc)
      · rcases List.mem_cons.mp hc with rfl | hc
        · exact .inr (by simp)
        · exact (List.mem_append.mp hc).elim (fun h => .inl (hb c h)) (numeric_of_exponent he c)

theorem newline_not_mem_quoted {w : List Char} (h : IsQuoted w) : '\n' ∉ w := by
  induction h with
  | close => decide
  | plain _ _ hn _ ih => simp [Ne.symm hn, ih]
  | escaped hn _ ih => simp [Ne.symm hn, ih]

theorem Matches.newline_not_mem {t : Terminal} {w : List Char} (h : t.Matches w) : '\n' ∉ w := by
  cases t with
  | name =>
    obtain ⟨c, cs, rfl, hc, hcs⟩ := h
    intro hm
    rcases List.mem_cons.mp hm with rfl | hm
    · cases hc
    · cases hcs _ hm
  | doc =>
    obtain ⟨cs, rfl, hcs⟩ := h
    simp [hcs]
  | string =>
    obtain ⟨cs, rfl, hcs⟩ := h
    simp [newline_not_mem_quoted hcs]
  | number =>
    intro hm
    rcases numeric_of_number h _ hm with hc | hc
    · cases hc
    · simp at hc
  | _ => subst h; decide

theorem prefix_line {v a s : List Char} (hv : '\n' ∉ v) (h : v <+: a ++ '\n' :: s) : v <+: a := by
  induction v generalizing a with
  | nil => exact List.nil_prefix
  | cons c v ih =>
    cases a with
    | nil =>
      obtain rfl := (List.cons_prefix_cons.mp h).1
      exact absurd (by simp) hv
    | cons b a =>
      obtain ⟨rfl, ht⟩ := List.cons_prefix_cons.mp h
      exact List.cons_prefix_cons.mpr ⟨rfl, ih (fun hm => hv (by simp [hm])) ht⟩

section
variable {t : Terminal} {a b s : List Char}

theorem length_of_width? {cs : List Char} {n : Nat} (h : t.width? cs = some n) : 0 < n ∧ n ≤ cs.length := by
  have hm := width?_measured t cs
  rw [h] at hm
  obtain ⟨u, hu, rfl⟩ := hm
  exact ⟨List.length_pos_iff.mpr hu.holds.ne_nil, hu.isPrefix.length_le⟩

theorem width?_cut {n : Nat} (h : t.width? (a ++ b) = some n) (hn : n ≤ a.length) :
    t.width? (a ++ '\n' :: s) = some n := by
  have hm := width?_measured t (a ++ b)
  have hm' := width?_measured t (a ++ '\n' :: s)
  rw [h] at hm
  obtain ⟨u, hu, rfl⟩ := hm
  have hua : u <+: a := List.prefix_of_prefix_length_le hu.isPrefix (List.prefix_append a b) hn
  cases h' : t.width? (a ++ '\n' :: s) with
  | none =>
    rw [h'] at hm'
    exact absurd hu.holds (hm' u (hua.trans (List.prefix_append _ _)))
  | some n' =>
    rw [h'] at hm'
    obtain ⟨u', hu', rfl⟩ := hm'
    have hua' : u' <+: a := prefix_line hu'.holds.newline_not_mem hu'.isPrefix
    have h1 := hu.longest u' (hua'.trans (List.prefix_append _ _)) hu'.holds
    have h2 := hu'.longest u (hua.trans (List.prefix_append _ _)) hu.holds
    rw [Nat.le_antisymm h1 h2]

theorem width?_cut_none (h : t.width? (a ++ b) = none) : t.width? (a ++ '\n' :: s) = none := by
  have hm := width?_measured t (a ++ b)
  have hm' := width?_measured t (a ++ '\n' :: s)
  rw [h] at hm
  cases h' : t.width? (a ++ '\n' :: s) with
  | none => rfl
  | some n' =>
    rw [h'] at hm'
    obtain ⟨u, hu, -⟩ := hm'
    have hua : u <+: a := prefix_line hu.holds.newline_not_mem hu.isPrefix
    exact absurd hu.holds (hm u (hua.trans (List.prefix_append _ _)))

end

end DomainModel.Terminal
