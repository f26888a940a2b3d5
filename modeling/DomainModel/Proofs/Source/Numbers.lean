import DomainModel.Proofs.Source.RoundTrip
import DomainModel.Proofs.Source.Wording

/-!
# Number literals

The numbers among the arguments of a file are those that its number literals denote, one by one and in
order (`parse_numbers`). A sign and digits denote an integer, unless there are more than
`Numeral.maxIntegerDigits` of them: then they are read as a floating-point number, as the literals with
a point or an exponent are.
-/

namespace DomainModel

open Terminal

/-! ## Digits by their places -/

/-- The number that decimal digits denote by their places, the last digit counting the units. -/
def placeValue (d : List Char) : Nat := Nat.ofDigits 10 (d.reverse.map fun c => c.toNat - '0'.toNat)

def signed (negative : Bool) (n : Nat) : Int := if negative then -(n : Int) else n

theorem placeValue_concat (d : List Char) (c : Char) :
    placeValue (d ++ [c]) = 10 * placeValue d + (c.toNat - '0'.toNat) := by
  unfold placeValue
  rw [List.reverse_append, List.reverse_singleton, List.singleton_append, List.map_cons, Nat.ofDigits_cons]
  simp [Nat.add_comm]

theorem Numeral.natOfDigits_eq (d : List Char) : natOfDigits d = placeValue d := by
  induction d using List.reverseRecOn with
  | nil => rfl
  | append_singleton d c ih =>
    rw [placeValue_concat, ← ih]
    simp [natOfDigits]

theorem pow_le_placeValue {c : Char} {d : List Char} (hc : c.isDigit = true) (h : c ≠ '0') :
    10 ^ d.length ≤ placeValue (c :: d) := by
  have hpos : c.toNat - '0'.toNat ≠ 0 := by
    have h48 := (Char.isDigit_iff_toNat.mp hc).1
    intro h0
    apply h
    apply Char.toNat_inj.mp
    have : '0'.toNat = 48 := rfl
    omega
  have hle : 10 ^ ((c :: d).reverse.map fun c => c.toNat - '0'.toNat).length ≤ 10 * placeValue (c :: d) :=
    Nat.pow_length_le_mul_ofDigits (by simp) (by simpa using hpos)
  rw [List.length_map, List.length_reverse, List.length_cons, Nat.pow_succ] at hle
  omega

theorem Binary64.ofDecimal_of_pow_le {negative : Bool} {n k : Nat} (hk : 310 ≤ k) (h : 10 ^ k ≤ n) :
    ofDecimal negative n 0 = infinite negative := by
  have hn : n ≠ 0 := by
    rintro rfl
    exact absurd h (Nat.not_le.mpr (Nat.pow_pos (by omega)))
  have hlen : k < (Nat.toDigits 10 n).length := by
    apply Nat.lt_of_not_le
    intro hle
    by_cases h0 : k = 0
    · omega
    · exact absurd h (Nat.not_le.mpr ((Nat.length_toDigits_le_iff (by omega) (by omega)).mp hle))
  rw [ofDecimal, if_neg hn, if_pos (by omega)]

/-! ## The value of a literal -/

/-- `v` is the value of the number literal `w`. -/
structure Denotes (w : List Char) (v : Literal) : Prop where
  digits : ∀ s d, w = s ++ d → IsSign s → IsDigits d → d ≠ [] →
    v = if d.length ≤ Numeral.maxIntegerDigits then .integer (signed (s = ['-']) (placeValue d))
      else .float (.ofDecimal (s = ['-']) (placeValue d) 0)
  beyond : ∀ s c d, w = s ++ c :: d → IsSign s → IsDigits (c :: d) → c ≠ '0' →
    Numeral.maxIntegerDigits < (c :: d).length → v = .float (.infinite (s = ['-']))
  isFloat_iff : (∃ x, v = .float x) ↔
    '.' ∈ w ∨ 'e' ∈ w ∨ 'E' ∈ w ∨ Numeral.maxIntegerDigits < (w.filter Char.isDigit).length

section
variable {s d e r : List Char}

theorem ofNumeral_integer (hs : IsSign s) (hd : IsDigits d) (hne : d ≠ []) :
    Literal.ofNumeral (.ofLexeme (s ++ d)) =
      if d.length ≤ Numeral.maxIntegerDigits then .integer (signed (s = ['-']) (placeValue d))
      else .float (.ofDecimal (s = ['-']) (placeValue d) 0) := by
  rw [ofLexeme_integer hs hd hne, Literal.ofNumeral, Numeral.integer?]
  by_cases hl : d.length ≤ Numeral.maxIntegerDigits
  · simp [hl, Numeral.natOfDigits_eq, signed]
  · simp [hl, Numeral.natOfDigits_eq, Numeral.float]

theorem ofNumeral_float (hs : IsSign s) (hd : IsDigits d) (hr : ∀ c ∈ r.head?, c.isDigit = false)
    (hu : IsUnsigned (d ++ r)) (hne : r ≠ []) :
    ∃ x, Literal.ofNumeral (.ofLexeme (s ++ (d ++ r))) = .float x := by
  have hsplit : Numeral.splitSign (s ++ (d ++ r)) = (decide (s = ['-']), d ++ r) := by
    cases hs with
    | plus => rfl
    | minus => rfl
    | none =>
      obtain ⟨c, w, he, hp, hm⟩ := unsigned_head hu
      rw [he, List.nil_append, Numeral.splitSign]
      · rfl
      · exact fun _ h => hm (List.cons.inj h).1
      · exact fun _ h => hp (List.cons.inj h).1
  have htake : (d ++ r).takeWhile Char.isDigit = d := takeWhile_run hd hr
  have hdrop : (d ++ r).dropWhile Char.isDigit = r := by
    have := List.takeWhile_append_dropWhile (p := Char.isDigit) (l := d ++ r)
    rw [htake] at this
    exact List.append_cancel_left this
  obtain ⟨c, r, rfl⟩ := List.exists_cons_of_ne_nil hne
  unfold Literal.ofNumeral Numeral.integer? Numeral.ofLexeme
  rw [hsplit]
  simp only [htake, hdrop]
  by_cases hc : c = '.'
  · subst hc
    simp
  · simp [hc]

theorem isSign_not_mem (hs : IsSign s) : s.filter Char.isDigit = [] ∧ '.' ∉ s ∧ 'e' ∉ s ∧ 'E' ∉ s := by
  cases hs <;> decide

theorem not_mem_of_isDigits {c : Char} (hd : IsDigits d) (hc : c.isDigit = false) : c ∉ d := by
  intro h
  rw [hd c h] at hc
  cases hc

theorem denotes_integer (hs : IsSign s) (hd : IsDigits d) (hne : d ≠ []) :
    (∃ x, Literal.ofNumeral (.ofLexeme (s ++ d)) = .float x) ↔ '.' ∈ s ++ d ∨ 'e' ∈ s ++ d ∨ 'E' ∈ s ++ d ∨
      Numeral.maxIntegerDigits < ((s ++ d).filter Char.isDigit).length := by
  obtain ⟨hf, hdot, he, hE⟩ := isSign_not_mem hs
  have hall : d.filter Char.isDigit = d := List.filter_eq_self.mpr hd
  rw [ofNumeral_integer hs hd hne, List.filter_append, hf, hall]
  have h₁ := not_mem_of_isDigits hd (c := '.') rfl
  have h₂ := not_mem_of_isDigits hd (c := 'e') rfl
  have h₃ := not_mem_of_isDigits hd (c := 'E') rfl
  by_cases hl : d.length ≤ Numeral.maxIntegerDigits
  · simp [hl, hdot, he, hE, h₁, h₂, h₃]
  · simp [hl, Nat.lt_of_not_le hl]

/-- What the grammar takes as a number has a value. -/
theorem denotes_of_matches {w : List Char} (h : number.Matches w) : Denotes w (.ofNumeral (.ofLexeme w)) := by
  constructor
  case digits =>
    rintro s d rfl hs hd hne
    exact ofNumeral_integer hs hd hne
  case beyond =>
    rintro s c d rfl hs hd hc hl
    have hpow := pow_le_placeValue (d := d) (hd c (by simp)) hc
    rw [ofNumeral_integer hs hd (by simp), if_neg (by omega), Binary64.ofDecimal_of_pow_le ?_ hpow]
    unfold Numeral.maxIntegerDigits at hl
    rw [List.length_cons] at hl
    omega
  case isFloat_iff =>
    obtain ⟨s, u, rfl, hs, hu⟩ := h
    have hu' := hu
    cases hu with
    | @whole d e hd hne he =>
      cases he with
      | none =>
        rw [List.append_nil]
        exact denotes_integer hs hd hne
      | @mk c t b hc ht hb hbne =>
        apply iff_of_true
        · apply ofNumeral_float hs hd _ hu' (by simp)
          rintro x ⟨⟩
          rcases hc with rfl | rfl <;> rfl
        · rcases hc with rfl | rfl <;> simp
    | @decimal a b e ha hb hne he =>
      apply iff_of_true
      · apply ofNumeral_float hs ha _ hu' (by simp)
        rintro x ⟨⟩
        rfl
      · simp

end

/-! ## Number literals of a sentence -/

def numberTokens (ts : List Token) : List Token := ts.filter (·.terminal = .number)

def Literal.isNumber : Literal → Bool
  | .integer _ | .float _ => true
  | .text _ | .truth _ | .absent => false

/-- The numbers among the arguments, in their order. -/
def argumentNumbers (as : List Argument) : List Literal := (as.map (·.value)).filter Literal.isNumber

/-- The numbers among the arguments of the directives, in their order. -/
def Declaration.numbers (d : Declaration) : List Literal :=
  d.directives.flatMap fun x => argumentNumbers x.arguments

/-- The values of the number literals among tokens, in their order. -/
def readNumbers (ts : List Token) : List Literal :=
  (numberTokens ts).map fun k => .ofNumeral (.ofLexeme k.lexeme.toList)

@[simp] theorem readNumbers_nil : readNumbers [] = [] := rfl

@[simp] theorem readNumbers_append (ts us : List Token) : readNumbers (ts ++ us) = readNumbers ts ++ readNumbers us := by
  simp [readNumbers, numberTokens]

@[simp] theorem readNumbers_cons (k : Token) (ts : List Token) : readNumbers (k :: ts) =
    if k.terminal = .number then .ofNumeral (.ofLexeme k.lexeme.toList) :: readNumbers ts else readNumbers ts := by
  by_cases h : k.terminal = .number <;> simp [readNumbers, numberTokens, h]

namespace Grammar
variable {file : Option String} {ts : List Token}

theorem Many.readNumbers_eq {α : Type} {rule : List Token → α → Prop} {f : α → List Literal} {xs : List α}
    (h : Many rule ts xs) (hrule : ∀ us x, rule us x → readNumbers us = f x) : readNumbers ts = xs.flatMap f := by
  induction h with
  | nil => rfl
  | snoc _ hx ih => simp [ih, hrule _ _ hx]

theorem Many.readNumbers_nil {α : Type} {rule : List Token → α → Prop} {xs : List α} (h : Many rule ts xs)
    (hrule : ∀ us x, rule us x → readNumbers us = []) : readNumbers ts = [] := by
  rw [h.readNumbers_eq (f := fun _ => []) hrule]
  simp

theorem IsDoc.readNumbers_nil {line : String} (h : IsDoc ts line) : readNumbers ts = [] := by
  cases h with
  | mk hk => simp [hk]

theorem Many.readNumbers_docs {docs : List String} (h : Many IsDoc ts docs) : readNumbers ts = [] :=
  h.readNumbers_nil fun _ _ hd => hd.readNumbers_nil

theorem IsDottedName.readNumbers_nil {n : String} (h : IsDottedName ts n) : readNumbers ts = [] := by
  induction h with
  | name hk => simp [hk]
  | dot _ hd hk ih => simp [ih, hd, hk]

mutual

theorem readNumbers_type {ts : List Token} {t : TypeRef} (h : IsType ts t) : readNumbers ts = [] := by
  match h with
  | .plain hn => exact hn.readNumbers_nil
  | .applied hn ho hts hc => simp [hn.readNumbers_nil, ho, readNumbers_types hts, hc]

theorem readNumbers_types {ts : List Token} {args : List TypeRef} (h : IsTypes ts args) : readNumbers ts = [] := by
  match h with
  | .one ht => exact readNumbers_type ht
  | .more hts hc ht => simp [readNumbers_types hts, hc, readNumbers_type ht]

end

theorem IsVisibility.readNumbers_nil {v : Visibility} (h : IsVisibility ts v) : readNumbers ts = [] := by
  cases h with
  | hidden => rfl
  | exposed hk => simp [hk]

theorem IsField.readNumbers_nil {f : Field} (h : IsField file ts f) : readNumbers ts = [] := by
  cases h with
  | mk hds hv hn hc ht => simp [hds.readNumbers_docs, hv.readNumbers_nil, hn, hc, readNumbers_type ht]

theorem IsVariant.readNumbers_nil {v : Variant} (h : IsVariant file ts v) : readNumbers ts = [] := by
  cases h with
  | mk hds hn ho ht hc => simp [hds.readNumbers_docs, hn, ho, readNumbers_type ht, hc]

theorem IsBody.readNumbers_nil {docs : List String} {directives : List Directive} {d : Declaration}
    (h : IsBody file docs directives ts d) : readNumbers ts = [] := by
  cases h with
  | record hk hn ho hf hc => simp [hk, hn, ho, hf.readNumbers_nil fun _ _ h => h.readNumbers_nil, hc]
  | sum hk hn ho hv hc => simp [hk, hn, ho, hv.readNumbers_nil fun _ _ h => h.readNumbers_nil, hc]
  | synonym hk hn he ht => simp [hk, hn, he, readNumbers_type ht]

theorem IsBody.directives_eq {docs : List String} {directives : List Directive} {d : Declaration}
    (h : IsBody file docs directives ts d) : d.directives = directives := by
  cases h <;> rfl

/-! ## Number literals of the arguments -/

theorem isNumber_ofNumeral (n : Numeral) : (Literal.ofNumeral n).isNumber = true := by
  unfold Literal.ofNumeral
  split <;> rfl

theorem IsValue.readNumbers_eq {k : Token} {v : Literal} (h : IsValue k v) :
    readNumbers [k] = [v].filter Literal.isNumber := by
  cases h with
  | word hk => simp [hk, Literal.isNumber]
  | string hk => simp [hk, Literal.isNumber]
  | number hk => simp [hk, isNumber_ofNumeral]

theorem IsArgument.readNumbers_eq {a : Argument} (h : IsArgument ts a) : readNumbers ts = argumentNumbers [a] := by
  cases h with
  | positional hv => exact hv.readNumbers_eq
  | @named n e k v hn he hv =>
    have hskip : readNumbers [n, e, k] = readNumbers [k] := by simp [hn, he]
    rw [hskip]
    exact hv.readNumbers_eq

theorem Separated.readNumbers_eq {as : List Argument} (h : Separated IsArgument ts as) :
    readNumbers ts = argumentNumbers as := by
  induction h with
  | one ha => exact ha.readNumbers_eq
  | more _ hc ha ih => simp [ih, hc, ha.readNumbers_eq, argumentNumbers]

theorem IsDirective.readNumbers_eq {d : Directive} (h : IsDirective file ts d) :
    readNumbers ts = argumentNumbers d.arguments := by
  cases h with
  | bare hs hn => simp [hs, hn, argumentNumbers]
  | empty hs hn ho hc => simp [hs, hn, ho, hc, argumentNumbers]
  | applied hs hn ho has hc => simp [hs, hn, ho, has.readNumbers_eq, hc]

theorem IsDeclaration.readNumbers_eq {d : Declaration} (h : IsDeclaration file ts d) : readNumbers ts = d.numbers := by
  cases h with
  | mk hds hus hb =>
    unfold Declaration.numbers
    rw [hb.directives_eq, ← hus.readNumbers_eq fun _ _ h => h.readNumbers_eq]
    simp [hds.readNumbers_docs, hb.readNumbers_nil]

end Grammar

/-! ## The numbers of a file -/

variable {text : String} {file : Option String} {ds : List Declaration}

theorem parse_numbers (h : parse text file = .ok ds) :
    ∃ ts, Splits .start text.toList ts ∧ Grammar.IsFile file ts ds ∧
      List.Forall₂ (fun k v => Denotes k.lexeme.toList v) (numberTokens ts) (ds.flatMap Declaration.numbers) := by
  obtain ⟨ts, hs, hf⟩ := isFile_of_parse h
  refine ⟨ts, hs, hf, ?_⟩
  have hvalues : readNumbers ts = ds.flatMap Declaration.numbers := hf.readNumbers_eq fun _ _ hd => hd.readNumbers_eq
  rw [← hvalues, readNumbers, List.forall₂_map_right_iff, List.forall₂_same]
  intro k hk
  obtain ⟨hmem, hnumber⟩ := List.mem_filter.mp hk
  obtain ⟨a, b, -, -, hb⟩ := hs.exists_of_mem hmem
  apply denotes_of_matches
  rw [← of_decide_eq_true hnumber]
  exact hb.holds

theorem parse_numbers_signed :
    parse "@a(x = -007, 2.5) record A \x7b\x7d" none = .ok
        [{ kind := .record, name := "A", location := some ⟨1, 26, none⟩
           directives := [⟨"a", [⟨some "x", .integer (-7)⟩, ⟨none, .float (.finite false (5 * 2 ^ 50) (-51))⟩],
             some ⟨1, 2, none⟩⟩] }] ∧
      ∃ ts, Splits .start "@a(x = -007, 2.5) record A \x7b\x7d".toList ts ∧
        List.Forall₂ (fun k v => Denotes k.lexeme.toList v) (numberTokens ts)
          [.integer (-7), .float (.finite false (5 * 2 ^ 50) (-51))] := by
  have h : parse "@a(x = -007, 2.5) record A \x7b\x7d" none = .ok
      [{ kind := .record, name := "A", location := some ⟨1, 26, none⟩
         directives := [⟨"a", [⟨some "x", .integer (-7)⟩, ⟨none, .float (.finite false (5 * 2 ^ 50) (-51))⟩],
           some ⟨1, 2, none⟩⟩] }] := by cbv
  obtain ⟨ts, hs, -, hn⟩ := parse_numbers h
  exact ⟨h, ts, hs, hn⟩

/-! ## A literal of any digits -/

section
variable (d : List Char)

/-- A file whose only number literal is `d`. -/
def numberText : String :=
  "@" ++ "a" ++ "(" ++ String.ofList d ++ ")\n" ++ ("record " ++ "A" ++ " \x7b\n" ++ String.join [] ++ "\x7d\n")

def numberDeclaration : Declaration :=
  { kind := .record, name := "A", directives := [⟨"a", [⟨none, .ofNumeral (.ofLexeme d)⟩], none⟩] }

variable {d}

theorem spelled_numberText (hd : IsDigits d) (hne : d ≠ []) : Spelled (numberText d) [] fun ts =>
    ∃ d', Grammar.IsDeclaration none ts d' ∧ d'.unlocated = (numberDeclaration d).unlocated ∧
      (numberTokens ts).map (·.lexeme.toList) = [d] := by
  have hsign : ∀ rest, Spelled "@" rest (IsMark .atSign) := fun rest => spelled_sign rest (by decide)
  have hname := fun cs => spelled_name ('(' :: cs) (n := "a") (by decide) (wordEnds_cons rfl)
  have hopen : ∀ rest, Spelled "(" rest (IsMark .openParen) := fun rest => spelled_sign rest (by decide)
  have hdigits : ∀ cs, Spelled (String.ofList d) (')' :: cs) _ := fun cs => .lexeme (k := .number) (by
    rw [String.toList_ofList]
    exact .integer .none hd hne (wordEnds_cons rfl) (by simp))
  have hclose : ∀ rest, Spelled ")\n" rest (IsMark .closeParen) := fun rest => spelled_sign rest (by decide)
  have hbody := @spelled_record [] none "A" (numberDeclaration d).directives [] none [] 0 (by decide) (by simp)
  refine ((((((hsign _).append (hname _)).append (hopen _)).append (hdigits _)).append (hclose _)).append hbody).mono ?_
  rintro _ ⟨_, bs, rfl, ⟨_, _, rfl, ⟨_, _, rfl, ⟨_, _, rfl, ⟨_, _, rfl, ⟨x, rfl, hx⟩, k, rfl, hk, hka⟩, o, rfl, ho⟩,
    n, rfl, hn, hnl⟩, c, rfl, hc⟩, hb⟩
  have hvalue := Grammar.IsValue.number hn
  rw [hnl, String.toList_ofList] at hvalue
  have hdirective : Grammar.IsDirective none _ _ := .applied hx hk ho (.one (.positional hvalue)) hc
  rw [hka] at hdirective
  obtain ⟨d', hd', he⟩ := hb [⟨"a", [⟨none, .ofNumeral (.ofLexeme d)⟩], some (Grammar.nameAt none k).location⟩] rfl
  have hbs : numberTokens bs = [] := List.map_eq_nil_iff.mp hd'.readNumbers_nil
  refine ⟨d', ?_, he, ?_⟩
  · exact .mk .nil (.one hdirective) hd'
  · unfold numberTokens at hbs ⊢
    simp [hx, hk, ho, hn, hc, hnl, hbs]

theorem parse_numberText (hd : IsDigits d) (hne : d ≠ []) : ∃ ts ds, parse (numberText d) none = .ok ds ∧
    Splits .start (numberText d).toList ts ∧ Grammar.IsFile none ts ds ∧
    (numberTokens ts).map (·.lexeme.toList) = [d] ∧
    ds.flatMap Declaration.numbers = [.ofNumeral (.ofLexeme d)] := by
  obtain ⟨ts, hspells, d', hd', he, hts⟩ := spelled_numberText hd hne .start
  have hf : Grammar.IsFile none ts [d'] := .one hd'
  have hcheck : Naming.check [d'] = .ok () :=
    Naming.check_of_unlocated (show [d'].map Declaration.unlocated = [numberDeclaration d].map Declaration.unlocated by simp [he]) rfl
  have hparse : parse (numberText d) none = .ok [d'] := by
    rw [parse_of_read (readDeclarations_of_spells hspells hf), hcheck]
    rfl
  obtain ⟨r, hr, -⟩ := Grammar.steps_of_isFile hf
  obtain ⟨k, hk, -⟩ := hspells.scans (k := .start none) hr
  refine ⟨ts, [d'], hparse, hk.splits, hf, hts, ?_⟩
  have hvalues : readNumbers ts = [d'].flatMap Declaration.numbers := hf.readNumbers_eq fun _ _ h => h.readNumbers_eq
  have hread : readNumbers ts = ((numberTokens ts).map (·.lexeme.toList)).map fun w => .ofNumeral (.ofLexeme w) := by
    simp [readNumbers]
  rw [← hvalues, hread, hts]
  rfl

end

def longDigits : List Char := List.replicate 4301 '1'

theorem isDigits_longDigits : IsDigits longDigits := by
  intro c hc
  rw [List.eq_of_mem_replicate hc]
  rfl

theorem longDigits_ne_nil : longDigits ≠ [] := List.ne_nil_of_length_pos (by
  rw [longDigits, List.length_replicate]
  omega)

theorem ofNumeral_longDigits : Literal.ofNumeral (.ofLexeme longDigits) = .float (.infinite false) := by
  have hm : number.Matches longDigits :=
    ⟨[], longDigits ++ [], by simp, .none, .whole isDigits_longDigits longDigits_ne_nil .none⟩
  apply (denotes_of_matches hm).beyond [] '1' (List.replicate 4300 '1') rfl .none isDigits_longDigits (by decide)
  rw [List.length_cons, List.length_replicate]
  unfold Numeral.maxIntegerDigits
  omega

/-- The digits denote an integer, but are read as an infinite floating-point number. -/
theorem parse_numbers_long : ∃ ts ds, parse (numberText longDigits) none = .ok ds ∧
    Splits .start (numberText longDigits).toList ts ∧ Grammar.IsFile none ts ds ∧
    (numberTokens ts).map (·.lexeme.toList) = [longDigits] ∧ IsDigits longDigits ∧
    ds.flatMap Declaration.numbers = [.float (.infinite false)] := by
  obtain ⟨ts, ds, h, hs, hf, hts, hn⟩ := parse_numberText isDigits_longDigits longDigits_ne_nil
  rw [ofNumeral_longDigits] at hn
  exact ⟨ts, ds, h, hs, hf, hts, isDigits_longDigits, hn⟩

end DomainModel
