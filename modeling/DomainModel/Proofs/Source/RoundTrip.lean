import Mathlib.Data.List.Induction
import DomainModel.Proofs.Naming.Names
import DomainModel.Proofs.Source.Acceptance
import DomainModel.Proofs.Source.Printing
import DomainModel.Proofs.Source.Soundness
import DomainModel.Proofs.Source.Spelling

/-!
# Parsing what was printed

`parse_print`: declarations that keep the rules on names and have a written form are read back from it,
up to their places. Each rule of the grammar has a lemma that says that the written form of an element
spells a sentence of the rule, for the element or for one that differs from it in its place only.
-/

namespace DomainModel

open Grammar

/-! ## Texts that spell some sentence -/

/-- The text `s`, with `rest` behind it, spells tokens of this form wherever it stands. -/
def Spelled (s : String) (rest : List Char) (form : List Token → Prop) : Prop :=
  ∀ p, ∃ ts, Spells rest p s.toList ts ∧ form ts

namespace Spelled
variable {s t : String} {rest : List Char} {form form' : List Token → Prop}

theorem mono (h : Spelled s rest form) (hf : ∀ ts, form ts → form' ts) : Spelled s rest form' :=
  fun p => (h p).imp fun ts ⟨hs, ht⟩ => ⟨hs, hf ts ht⟩

theorem append (h : Spelled s (t.toList ++ rest) form) (h' : Spelled t rest form') :
    Spelled (s ++ t) rest fun ts => ∃ us vs, ts = us ++ vs ∧ form us ∧ form' vs := by
  intro p
  obtain ⟨us, hu, hus⟩ := h p
  obtain ⟨vs, hv, hvs⟩ := h' (p.after s.toList)
  exact ⟨us ++ vs, by rw [String.toList_append]; exact hu.append hv, us, vs, rfl, hus, hvs⟩

theorem after_gap (h : Spelled s (t.toList ++ rest) (· = [])) (h' : Spelled t rest form) :
    Spelled (s ++ t) rest form :=
  (h.append h').mono fun _ ⟨us, _, he, hu, hv⟩ => by rw [he, hu]; exact hv

theorem before_gap (h : Spelled s (t.toList ++ rest) form) (h' : Spelled t rest (· = [])) :
    Spelled (s ++ t) rest form :=
  (h.append h').mono fun _ ⟨us, _, he, hu, hv⟩ => by rw [he, hv, List.append_nil]; exact hu

theorem empty : Spelled "" rest (· = []) := fun _ => ⟨[], .done, rfl⟩

theorem lexeme {k : Terminal} (h : Solid k s.toList rest) :
    Spelled s rest fun ts => ∃ x : Token, ts = [x] ∧ x.terminal = k ∧ x.lexeme = s :=
  fun p => ⟨_, .lexeme h, ⟨_, _, p⟩, rfl, rfl, String.ofList_toList⟩

theorem blanks (h : ∀ c ∈ s.toList, isBlank c = true) : Spelled s rest (· = []) :=
  fun _ => ⟨[], .blanks h, rfl⟩

theorem join {α : Type} {rule : List Token → α → Prop} {write : α → String} {erase : α → α} {xs : List α}
    (h : ∀ x ∈ xs, ∀ rest, Spelled (write x) rest fun ts => ∃ y, rule ts y ∧ erase y = erase x) :
    Spelled (String.join (xs.map write)) rest fun ts => ∃ ys, Many rule ts ys ∧ ys.map erase = xs.map erase := by
  induction xs using List.reverseRecOn generalizing rest with
  | nil => exact empty.mono fun _ he => ⟨[], he ▸ .nil, rfl⟩
  | append_singleton xs x ih =>
    have hs : String.join ((xs ++ [x]).map write) = String.join (xs.map write) ++ write x := by simp
    rw [hs]
    refine ((ih fun y hy => h y (by simp [hy])).append (h x (by simp) rest)).mono ?_
    rintro ts ⟨us, vs, rfl, ⟨ys, hys, hm⟩, y, hy, he⟩
    exact ⟨ys ++ [y], .snoc hys hy, by simp [hm, he]⟩

end Spelled

/-! ## Leaves -/

/-- The signs of the written form, with the blanks around them. -/
def writtenSigns : List (String × Terminal) :=
  [("@", .atSign), ("(", .openParen), (")\n", .closeParen), ("=", .equals), (" = ", .equals), (", ", .comma),
   (".", .dot), ("[", .openBracket), ("]", .closeBracket), (": ", .colon), (" \x7b\n", .openBrace),
   ("\x7d\n", .closeBrace)]

def IsMark (k : Terminal) (ts : List Token) : Prop := ∃ x : Token, ts = [x] ∧ x.terminal = k

section
variable (rest : List Char)

theorem wordEnds_cons {c : Char} {cs : List Char} (h : Word.isPart c = false) : WordEnds (c :: cs) := by
  rintro d ⟨⟩
  exact h

theorem spelled_name {n : String} (h : IsName n) (hr : WordEnds rest) :
    Spelled n rest fun ts => ∃ x : Token, ts = [x] ∧ x.terminal = .name ∧ x.lexeme = n := by
  refine .lexeme (.word h.1 (fun k hk he => ?_) hr)
  have key : ∀ k ∈ Terminal.keywords, String.ofList k.spelling ∈ ["pub", "record", "sum", "alias"] := by
    decide
  have := key k hk
  rw [he, String.ofList_toList] at this
  exact h.2 this

theorem spelled_sign {s : String} {k : Terminal} (h : (s, k) ∈ writtenSigns) : Spelled s rest (IsMark k) := by
  have key : ∀ p ∈ writtenSigns, ∃ q ∈ firstCharacters, q.1 = p.2 ∧ p.1.toList.takeWhile isBlank ++
      ([q.2] ++ (p.1.toList.dropWhile isBlank).tail) = p.1.toList ∧ p.2.spelling = [q.2] ∧
      (p.1.toList.takeWhile isBlank).all isBlank = true ∧
      (p.1.toList.dropWhile isBlank).tail.all isBlank = true := by decide
  obtain ⟨⟨k, a⟩, hk, rfl, he, ha, hbefore, hafter⟩ := key _ h
  rw [List.all_eq_true] at hbefore hafter
  intro p
  refine ⟨[] ++ ([⟨k, String.ofList [a], p.after (s.toList.takeWhile isBlank)⟩] ++ []), ?_, _, rfl, rfl⟩
  have hs : Spells rest p (s.toList.takeWhile isBlank ++ ([a] ++ (s.toList.dropWhile isBlank).tail)) _ :=
    .append (.blanks hbefore) (.append (.lexeme (.sign hk ha)) (.blanks hafter))
  rwa [he] at hs

theorem spelled_keyword {s : String} {k : Terminal} (hk : k ∈ Terminal.keywords)
    (hs : s.toList = k.spelling ++ [' ']) : Spelled s rest (IsMark k) := by
  intro p
  refine ⟨[⟨k, String.ofList k.spelling, p⟩] ++ [], ?_, _, rfl, rfl⟩
  rw [hs]
  exact .append (.lexeme (.keyword hk (wordEnds_cons rfl))) (.blank rfl)

theorem spelled_margin (n : Nat) : Spelled (margin n) rest (· = []) := by
  refine .blanks fun c hc => ?_
  rw [margin, String.toList_ofList] at hc
  rw [List.eq_of_mem_replicate hc]
  rfl

theorem spelled_newline : Spelled "\n" rest (· = []) :=
  .blanks (List.all_eq_true.mp (by decide))

theorem docText_line {line : String} (h : IsDocLine line) : docText ("#: " ++ line).toList = line := by
  have hhead : (' ' :: line.toList).reverse.head? ≠ some '\r' := by
    rw [List.head?_reverse]
    cases hl : line.toList with
    | nil => decide
    | cons c cs =>
      rw [List.getLast?_cons_cons, ← hl]
      exact h.2
  have hlast : (' ' :: line.toList).reverse.dropWhile (· = '\r') = (' ' :: line.toList).reverse := by
    cases hr : (' ' :: line.toList).reverse with
    | nil => rfl
    | cons c cs =>
      rw [hr] at hhead
      have : c ≠ '\r' := fun he => hhead (by rw [he]; rfl)
      simp [this]
  have hl : ("#: " ++ line).toList.drop 2 = ' ' :: line.toList := by simp
  rw [docText, hl, hlast, List.reverse_reverse]
  exact String.ofList_toList

theorem spelled_docLine {line : String} (n : Nat) (h : IsDocLine line) :
    Spelled (docLine n line) rest fun ts => IsDoc ts line := by
  refine ((spelled_margin _ n).after_gap ?_).before_gap (spelled_newline rest)
  have hsolid : Solid .doc ("#: " ++ line).toList ("\n".toList ++ rest) := by
    have hl : ("#: " ++ line).toList = '#' :: ':' :: ' ' :: line.toList := by simp
    rw [hl]
    refine .doc ?_ (by rintro c ⟨⟩; rfl)
    simpa using h.1
  refine (Spelled.lexeme hsolid).mono ?_
  rintro _ ⟨x, rfl, hx, hl⟩
  have := IsDoc.mk hx
  rwa [hl, docText_line h] at this

theorem spelled_docLines {docs : List String} (n : Nat) (h : ∀ line ∈ docs, IsDocLine line) :
    Spelled (docLines n docs) rest fun ts => Many IsDoc ts docs := by
  have hj : Spelled (docLines n docs) rest fun ts => ∃ ls, Many IsDoc ts ls ∧ ls.map id = docs.map id :=
    .join fun line hm rest => (spelled_docLine rest n (h line hm)).mono fun _ hd => ⟨line, hd, rfl⟩
  refine hj.mono ?_
  rintro ts ⟨ls, hls, he⟩
  rw [List.map_id, List.map_id] at he
  exact he ▸ hls

/-! ## Types -/

theorem spelled_dotted {parts : List String} (hne : parts ≠ []) (h : ∀ part ∈ parts, IsName part)
    (hr : WordEnds rest) :
    Spelled (".".intercalate parts) rest fun ts => IsDottedName ts (".".intercalate parts) := by
  induction parts using List.reverseRecOn generalizing rest with
  | nil => exact absurd rfl hne
  | append_singleton parts part ih =>
    have hpart := spelled_name rest (h part (by simp)) hr
    by_cases hp : parts = []
    · subst hp
      rw [List.nil_append, String.intercalate_singleton]
      refine hpart.mono ?_
      rintro _ ⟨x, rfl, hx, rfl⟩
      exact .name hx
    · rw [String.intercalate_append_of_ne_nil hp (by simp), String.intercalate_singleton]
      have hdot := spelled_sign (part.toList ++ rest) (s := ".") (k := .dot) (by decide)
      have hinit := ih (".".toList ++ (part.toList ++ rest)) hp (fun q hq => h q (by simp [hq]))
        (wordEnds_cons rfl)
      refine ((hinit.append hdot).append hpart).mono ?_
      rintro _ ⟨_, _, rfl, ⟨us, _, rfl, hus, d, rfl, hd⟩, k, rfl, hk, rfl⟩
      rw [List.append_assoc]
      exact .dot hus hd hk

theorem spelled_dottedName {n : String} (h : IsDotted n) (hr : WordEnds rest) :
    Spelled n rest fun ts => IsDottedName ts n := by
  obtain ⟨parts, hne, hp, rfl⟩ := h
  exact spelled_dotted rest hne hp hr

theorem wordEnds_textTail {rest : List Char} (ts : List TypeRef) (hr : WordEnds rest) :
    WordEnds ((TypeRef.textTail ts).toList ++ rest) := by
  cases ts with
  | nil => exact hr
  | cons t ts =>
    rw [TypeRef.textTail, String.toList_append, String.toList_append, List.append_assoc, List.append_assoc]
    exact wordEnds_cons rfl

mutual

theorem spelled_type (rest : List Char) (t : TypeRef) (h : t.IsWritable) (hr : WordEnds rest) :
    Spelled t.text rest fun ts => IsType ts t := by
  match t, h with
  | ⟨name, []⟩, h =>
    rw [TypeRef.IsWritable] at h
    rw [TypeRef.text]
    exact (spelled_dottedName rest h.1 hr).mono fun ts ht => .plain ht
  | ⟨name, t :: ts⟩, h =>
    rw [TypeRef.IsWritable, TypeRef.AreWritable] at h
    rw [TypeRef.text]
    have hclose := spelled_sign rest (s := "]") (k := .closeBracket) (by decide)
    have hend : WordEnds ("]".toList ++ rest) := wordEnds_cons rfl
    have htail := spelled_types _ ts h.2.2 hend
    have htype := spelled_type _ t h.2.1 (wordEnds_textTail ts hend)
    have hopen := spelled_sign (t.text.toList ++ ((TypeRef.textTail ts).toList ++ ("]".toList ++ rest)))
      (s := "[") (k := .openBracket) (by decide)
    have hname := spelled_dottedName ("[".toList ++ (t.text.toList ++ ((TypeRef.textTail ts).toList ++
      ("]".toList ++ rest)))) h.1 (wordEnds_cons rfl)
    refine ((((hname.append hopen).append htype).append htail).append hclose).mono ?_
    rintro _ ⟨_, _, rfl, ⟨_, us, rfl, ⟨_, _, rfl, ⟨_, _, rfl, hn, o, rfl, ho⟩, ht⟩, hts⟩, c, rfl, hc⟩
    have := IsType.applied hn ho (hts _ _ (.one ht)) hc
    simpa using this

theorem spelled_types (rest : List Char) (ts : List TypeRef) (h : TypeRef.AreWritable ts) (hr : WordEnds rest) :
    Spelled (TypeRef.textTail ts) rest fun us => ∀ vs args, IsTypes vs args → IsTypes (vs ++ us) (args ++ ts) := by
  match ts, h with
  | [], _ =>
    refine Spelled.empty.mono ?_
    rintro _ rfl vs args ha
    rwa [List.append_nil, List.append_nil]
  | t :: ts, h =>
    rw [TypeRef.AreWritable] at h
    rw [TypeRef.textTail]
    have htail := spelled_types rest ts h.2 hr
    have htype := spelled_type _ t h.1 (wordEnds_textTail ts hr)
    have hcomma := spelled_sign (t.text.toList ++ ((TypeRef.textTail ts).toList ++ rest)) (s := ", ")
      (k := .comma) (by decide)
    refine ((hcomma.append htype).append htail).mono ?_
    rintro _ ⟨_, us, rfl, ⟨_, ws, rfl, ⟨c, rfl, hc⟩, ht⟩, hts⟩ vs args ha
    have := hts _ _ (.more ha hc ht)
    simpa using this

end

/-! ## Integers -/

theorem natOfDigits_toDigits (n : Nat) : Numeral.natOfDigits (Nat.toDigits 10 n) = n := by
  rw [Numeral.natOfDigits, ← Nat.ofDigitChars_eq_foldl]
  exact Nat.ofDigitChars_ten_toDigits

theorem isDigits_toDigits (n : Nat) : Terminal.IsDigits (Nat.toDigits 10 n) :=
  fun _ hc => Nat.isDigit_of_mem_toDigits (by decide) (by decide) hc

def signOf (n : Int) : List Char := if n < 0 then ['-'] else []

theorem isSign_signOf (n : Int) : Terminal.IsSign (signOf n) := by
  unfold signOf
  split
  · exact .minus
  · exact .none

theorem toList_toString_int (n : Int) : (toString n).toList = signOf n ++ Nat.toDigits 10 n.natAbs := by
  cases n with
  | ofNat m =>
    rw [signOf, if_neg (by simp)]
    exact Nat.toList_repr
  | negSucc m =>
    rw [signOf, if_pos (by simp)]
    show ("-" ++ (m + 1).repr).toList = _
    rw [String.toList_append, Nat.toList_repr]
    rfl

theorem ofLexeme_integer {s d : List Char} (hs : Terminal.IsSign s) (hd : Terminal.IsDigits d) (hne : d ≠ []) :
    Numeral.ofLexeme (s ++ d) = ⟨s = ['-'], d, none, none⟩ := by
  have hsplit : Numeral.splitSign (s ++ d) = (decide (s = ['-']), d) := by
    cases hs with
    | plus => rfl
    | minus => rfl
    | none =>
      obtain ⟨c, d, rfl⟩ := List.exists_cons_of_ne_nil hne
      obtain ⟨hp, hm⟩ := Terminal.not_sign_of_isDigit (hd c (by simp))
      rw [List.nil_append, Numeral.splitSign]
      · rfl
      · exact fun _ h => hm (List.cons.inj h).1
      · exact fun _ h => hp (List.cons.inj h).1
  have htake : d.takeWhile Char.isDigit = d := by
    have := Terminal.takeWhile_run (r := []) hd (by simp)
    rwa [List.append_nil] at this
  have hdrop : d.dropWhile Char.isDigit = [] := by
    have := List.takeWhile_append_dropWhile (p := Char.isDigit) (l := d)
    rw [htake] at this
    exact List.append_cancel_left (this.trans (List.append_nil d).symm)
  simp [Numeral.ofLexeme, hsplit, htake, hdrop]

theorem ofNumeral_toString {n : Int} (h : (Nat.toDigits 10 n.natAbs).length ≤ Numeral.maxIntegerDigits) :
    Literal.ofNumeral (.ofLexeme (toString n).toList) = .integer n := by
  have hneg : decide (signOf n = ['-']) = decide (n < 0) := by
    unfold signOf
    split <;> simp [*]
  have hint : Numeral.integer? ⟨decide (n < 0), Nat.toDigits 10 n.natAbs, none, none⟩ = some n := by
    rw [Numeral.integer?, if_pos ⟨rfl, rfl, h⟩, natOfDigits_toDigits]
    by_cases hn : n < 0
    · simp only [hn, decide_true, if_true]
      congr 1
      omega
    · simp only [hn, decide_false, Bool.false_eq_true, if_false]
      congr 1
      omega
  rw [toList_toString_int, ofLexeme_integer (isSign_signOf n) (isDigits_toDigits _) Nat.toDigits_ne_nil, hneg,
    Literal.ofNumeral, hint]

/-! ## Directives -/

/-- An argument ends before what goes on with neither a word nor a number. -/
def ArgumentEnds (rest : List Char) : Prop := WordEnds rest ∧ rest.head? ≠ some '.'

theorem argumentEnds_cons {c : Char} {cs : List Char} (h : Word.isPart c = false) (hc : c ≠ '.') :
    ArgumentEnds (c :: cs) :=
  ⟨wordEnds_cons h, fun he => hc (Option.some.inj he)⟩

theorem spelled_value {v : Literal} (h : v.IsWritable) (hr : ArgumentEnds rest) :
    Spelled v.written rest fun ts => ∃ k, ts = [k] ∧ IsValue k v := by
  cases h with
  | @text s h =>
    have hq : ("\"" ++ s ++ "\"").toList = '"' :: (s.toList ++ ['"']) := by simp
    have hsolid : Solid .string ("\"" ++ s ++ "\"").toList rest := by
      obtain ⟨cs, he, hcs⟩ := h
      rw [he]
      exact .quoted hcs
    refine (Spelled.lexeme hsolid).mono ?_
    rintro _ ⟨k, rfl, hk, hl⟩
    refine ⟨k, rfl, ?_⟩
    have := IsValue.string hk
    rw [hl, hq] at this
    simpa using this
  | @integer n h =>
    have hsolid : Solid .number (toString n).toList rest := by
      rw [toList_toString_int]
      exact .integer (isSign_signOf n) (isDigits_toDigits _) Nat.toDigits_ne_nil hr.1 hr.2
    refine (Spelled.lexeme hsolid).mono ?_
    rintro _ ⟨k, rfl, hk, hl⟩
    refine ⟨k, rfl, ?_⟩
    have := IsValue.number hk
    rwa [hl, ofNumeral_toString h] at this

theorem spelled_argument {a : Argument} (h : a.IsWritable) (hr : ArgumentEnds rest) :
    Spelled a.written rest fun ts => IsArgument ts a := by
  obtain ⟨name, v⟩ := a
  have hv := spelled_value rest h.value hr
  cases name with
  | none =>
    refine hv.mono ?_
    rintro _ ⟨k, rfl, hk⟩
    exact .positional hk
  | some n =>
    have hequals := spelled_sign (v.written.toList ++ rest) (s := "=") (k := .equals) (by decide)
    have hname := spelled_name ("=".toList ++ (v.written.toList ++ rest)) (h.name n rfl) (wordEnds_cons rfl)
    refine ((hname.append hequals).append hv).mono ?_
    rintro _ ⟨_, _, rfl, ⟨_, _, rfl, ⟨m, rfl, hm, rfl⟩, e, rfl, he⟩, k, rfl, hk⟩
    exact .named hm he hk

theorem spelled_arguments {as : List Argument} (hne : as ≠ []) (h : ∀ a ∈ as, a.IsWritable)
    (hr : ArgumentEnds rest) :
    Spelled (", ".intercalate (as.map Argument.written)) rest fun ts => Separated IsArgument ts as := by
  induction as using List.reverseRecOn generalizing rest with
  | nil => exact absurd rfl hne
  | append_singleton as a ih =>
    have ha := spelled_argument rest (h a (by simp)) hr
    rw [List.map_append, List.map_singleton]
    by_cases hp : as = []
    · subst hp
      rw [List.map_nil, List.nil_append, String.intercalate_singleton]
      exact ha.mono fun ts ht => .one ht
    · rw [String.intercalate_append_of_ne_nil (by simpa using hp) (by simp), String.intercalate_singleton]
      have hcomma := spelled_sign (a.written.toList ++ rest) (s := ", ") (k := .comma) (by decide)
      have hinit := ih (", ".toList ++ (a.written.toList ++ rest)) hp (fun b hb => h b (by simp [hb]))
        (argumentEnds_cons rfl (by decide))
      refine ((hinit.append hcomma).append ha).mono ?_
      rintro _ ⟨_, vs, rfl, ⟨us, _, rfl, hus, c, rfl, hc⟩, ht⟩
      rw [List.append_assoc]
      exact .more hus hc ht

variable (file : Option String)

theorem spelled_directive {d : Directive} (h : d.IsWritable) :
    Spelled d.written rest fun ts => ∃ d', IsDirective file ts d' ∧ d'.unlocated = d.unlocated := by
  obtain ⟨name, as, location⟩ := d
  have hsign : ∀ rest, Spelled "@" rest (IsMark .atSign) := fun rest => spelled_sign rest (by decide)
  cases as with
  | nil =>
    have hname := spelled_name ("\n".toList ++ rest) h.name (wordEnds_cons rfl)
    refine (((hsign _).append hname).before_gap (spelled_newline rest)).mono ?_
    rintro _ ⟨_, _, rfl, ⟨x, rfl, hx⟩, k, rfl, hk, rfl⟩
    exact ⟨_, .bare hx hk, rfl⟩
  | cons a as =>
    have hclose := spelled_sign rest (s := ")\n") (k := .closeParen) (by decide)
    have hargs := spelled_arguments (")\n".toList ++ rest) (List.cons_ne_nil a as) h.arguments
      (argumentEnds_cons rfl (by decide))
    have hopen : ∀ rest, Spelled "(" rest (IsMark .openParen) := fun rest => spelled_sign rest (by decide)
    have hname := spelled_name ("(".toList ++ ((", ".intercalate ((a :: as).map Argument.written)).toList ++
      (")\n".toList ++ rest))) h.name (wordEnds_cons rfl)
    refine (((((hsign _).append hname).append (hopen _)).append hargs).append hclose).mono ?_
    rintro _ ⟨_, _, rfl, ⟨_, ts, rfl, ⟨_, _, rfl, ⟨_, _, rfl, ⟨x, rfl, hx⟩, k, rfl, hk, rfl⟩, o, rfl, ho⟩, hts⟩,
      c, rfl, hc⟩
    have hd : IsDirective file _ _ := .applied hx hk ho hts hc
    exact ⟨⟨_, _, some (nameAt file k).location⟩, by simpa using hd, rfl⟩

/-! ## Fields and variants -/

theorem spelled_visibility (v : Visibility) : Spelled v.written rest fun ts => IsVisibility ts v := by
  cases v with
  | exposed =>
    refine (spelled_keyword rest (k := .pub) (by decide) rfl).mono ?_
    rintro _ ⟨x, rfl, hx⟩
    exact .exposed hx
  | hidden =>
    refine Spelled.empty.mono ?_
    rintro _ rfl
    exact .hidden

theorem spelled_field {f : Field} (n : Nat) (h : f.IsWritable) :
    Spelled (f.written n) rest fun ts => ∃ f', IsField file ts f' ∧ f'.unlocated = f.unlocated := by
  obtain ⟨name, type, v, docs, location⟩ := f
  have htype := spelled_type ("\n".toList ++ rest) type h.type (wordEnds_cons rfl)
  have hcolon := spelled_sign (type.text.toList ++ ("\n".toList ++ rest)) (s := ": ") (k := .colon) (by decide)
  have hname := spelled_name (": ".toList ++ (type.text.toList ++ ("\n".toList ++ rest))) h.name
    (wordEnds_cons rfl)
  refine (((((((spelled_docLines _ n h.docs).before_gap (spelled_margin _ n)).append
    (spelled_visibility _ v)).append hname).append hcolon).append htype).before_gap (spelled_newline rest)).mono ?_
  rintro _ ⟨_, ts, rfl, ⟨_, _, rfl, ⟨_, _, rfl, ⟨ds, vs, rfl, hds, hvs⟩, m, rfl, hm, rfl⟩, c, rfl, hc⟩, hts⟩
  have hf : IsField file _ _ := .mk hds hvs hm hc hts
  exact ⟨⟨_, _, _, _, some (nameAt file m).location⟩, by simpa using hf, rfl⟩

theorem spelled_variant {v : Variant} (n : Nat) (h : v.IsWritable) :
    Spelled (v.written n) rest fun ts => ∃ v', IsVariant file ts v' ∧ v'.unlocated = v.unlocated := by
  obtain ⟨name, payload, docs, location⟩ := v
  have hclose := spelled_sign rest (s := ")\n") (k := .closeParen) (by decide)
  have htype := spelled_type (")\n".toList ++ rest) payload h.payload (wordEnds_cons rfl)
  have hopen := spelled_sign (payload.text.toList ++ (")\n".toList ++ rest)) (s := "(") (k := .openParen)
    (by decide)
  have hname := spelled_name ("(".toList ++ (payload.text.toList ++ (")\n".toList ++ rest))) h.name
    (wordEnds_cons rfl)
  refine ((((((spelled_docLines _ n h.docs).before_gap (spelled_margin _ n)).append hname).append
    hopen).append htype).append hclose).mono ?_
  rintro _ ⟨_, _, rfl, ⟨_, ts, rfl, ⟨_, _, rfl, ⟨ds, _, rfl, hds, m, rfl, hm, rfl⟩, o, rfl, ho⟩, hts⟩,
    c, rfl, hc⟩
  have hv : IsVariant file _ _ := .mk hds hm ho hts hc
  exact ⟨⟨_, _, _, some (nameAt file m).location⟩, by simpa using hv, rfl⟩

/-! ## Declarations -/

/-- A body of the declaration, behind directives that differ from its own in their places only. -/
def IsBodyOf (d : Declaration) (ts : List Token) : Prop :=
  ∀ directives, directives.map Directive.unlocated = d.directives.map Directive.unlocated →
    ∃ d', IsBody file d.docs directives ts d' ∧ d'.unlocated = d.unlocated

section
variable {name : String} {directives : List Directive} {docs : List String} {location : Option Location}

theorem spelled_block {α : Type} {rule : List Token → α → Prop} {write : α → String} {erase : α → α} {xs : List α}
    {word : String} {k : Terminal} (hk : k ∈ Terminal.keywords) (hw : word.toList = k.spelling ++ [' '])
    (hname : IsName name)
    (h : ∀ x ∈ xs, ∀ rest, Spelled (write x) rest fun ts => ∃ y, rule ts y ∧ erase y = erase x) :
    Spelled (word ++ name ++ " \x7b\n" ++ String.join (xs.map write) ++ "\x7d\n") rest fun ts =>
      ∃ (x m o c : Token) (us : List Token) (ys : List α), ts = x :: m :: o :: (us ++ [c]) ∧ x.terminal = k ∧
        m.terminal = .name ∧ m.lexeme = name ∧ o.terminal = .openBrace ∧ Many rule us ys ∧ c.terminal = .closeBrace ∧ ys.map erase = xs.map erase := by
  have hopen : ∀ rest, Spelled " \x7b\n" rest (IsMark .openBrace) := fun rest => spelled_sign rest (by decide)
  have hclose := spelled_sign rest (s := "\x7d\n") (k := .closeBrace) (by decide)
  refine (((((spelled_keyword _ hk hw).append (spelled_name _ hname (wordEnds_cons rfl))).append (hopen _)).append
    (.join h)).append hclose).mono ?_
  rintro _ ⟨_, _, rfl, ⟨_, us, rfl, ⟨_, _, rfl, ⟨_, _, rfl, ⟨x, rfl, hx⟩, m, rfl, hm, hl⟩, o, rfl, ho⟩,
    ys, hys, he⟩, c, rfl, hc⟩
  exact ⟨x, m, o, c, us, ys, by simp, hx, hm, hl, ho, hys, hc, he⟩

theorem spelled_record {fields : List Field} (n : Nat) (hname : IsName name) (h : ∀ f ∈ fields, f.IsWritable) :
    Spelled ("record " ++ name ++ " \x7b\n" ++ String.join (fields.map (·.written n)) ++ "\x7d\n") rest
      (IsBodyOf file { kind := .record, name, directives, docs, fields, location }) := by
  refine (spelled_block rest (k := .record) (by decide) rfl hname fun f hf rest =>
    spelled_field rest file n (h f hf)).mono ?_
  rintro _ ⟨k, m, o, c, us, fs, rfl, hk, hm, rfl, ho, hfs, hc, he⟩ ds hds
  exact ⟨_, .record hk hm ho hfs hc, by simp [Declaration.unlocated, hds, he]⟩

theorem spelled_sum {variants : List Variant} (n : Nat) (hname : IsName name)
    (h : ∀ v ∈ variants, v.IsWritable) :
    Spelled ("sum " ++ name ++ " \x7b\n" ++ String.join (variants.map (·.written n)) ++ "\x7d\n") rest
      (IsBodyOf file { kind := .sum, name, directives, docs, variants, location }) := by
  refine (spelled_block rest (k := .sum) (by decide) rfl hname fun v hv rest =>
    spelled_variant rest file n (h v hv)).mono ?_
  rintro _ ⟨k, m, o, c, us, vs, rfl, hk, hm, rfl, ho, hvs, hc, he⟩ ds hds
  exact ⟨_, .sum hk hm ho hvs hc, by simp [Declaration.unlocated, hds, he]⟩

theorem spelled_synonym {t : TypeRef} (hname : IsName name) (h : t.IsWritable) :
    Spelled ("alias " ++ name ++ " = " ++ t.text ++ "\n") rest
      (IsBodyOf file { kind := .synonym, name, directives, docs, target := some t, location }) := by
  have hkey : ∀ rest, Spelled "alias " rest (IsMark .synonym) := fun rest =>
    spelled_keyword rest (by decide) rfl
  have hequals : ∀ rest, Spelled " = " rest (IsMark .equals) := fun rest => spelled_sign rest (by decide)
  have htype := spelled_type ("\n".toList ++ rest) t h (wordEnds_cons rfl)
  refine (((((hkey _).append (spelled_name _ hname (wordEnds_cons rfl))).append (hequals _)).append
    htype).before_gap (spelled_newline rest)).mono ?_
  rintro _ ⟨_, ts, rfl, ⟨_, _, rfl, ⟨_, _, rfl, ⟨k, rfl, hk⟩, m, rfl, hm, rfl⟩, e, rfl, he⟩, ht⟩ ds hds
  have hb : IsBody file docs ds _ _ := .synonym hk hm he ht
  exact ⟨_, by simpa using hb, by simp [Declaration.unlocated, hds]⟩

end

theorem spelled_body {d : Declaration} (n : Nat) (h : d.IsWritable) :
    Spelled (d.writtenBody n) rest (IsBodyOf file d) := by
  have hparts := h.parts
  obtain ⟨kind, name, directives, docs, fields, variants, target, location⟩ := d
  cases kind with
  | record =>
    obtain ⟨rfl, rfl⟩ := hparts
    exact spelled_record rest file n h.name h.fields
  | sum =>
    obtain ⟨rfl, rfl⟩ := hparts
    exact spelled_sum rest file n h.name h.variants
  | synonym =>
    obtain ⟨rfl, rfl, ht⟩ := hparts
    obtain ⟨t, rfl⟩ := Option.isSome_iff_exists.mp ht
    exact spelled_synonym rest file h.name (h.target t rfl)

theorem spelled_declaration {d : Declaration} (n : Nat) (h : d.IsWritable) :
    Spelled (d.written n) rest fun ts => ∃ d', IsDeclaration file ts d' ∧ d'.unlocated = d.unlocated := by
  have hdirs : Spelled (String.join (d.directives.map Directive.written)) ((d.writtenBody n).toList ++ rest)
      fun ts => ∃ ys, Many (IsDirective file) ts ys ∧
        ys.map Directive.unlocated = d.directives.map Directive.unlocated :=
    .join fun x hx rest => spelled_directive rest file (h.directives x hx)
  refine (((spelled_docLines _ 0 h.docs).append hdirs).append (spelled_body rest file n h)).mono ?_
  rintro _ ⟨_, bs, rfl, ⟨us, vs, rfl, hus, ys, hys, he⟩, hbody⟩
  obtain ⟨d', hb, hd⟩ := hbody ys he
  rw [List.append_assoc]
  exact ⟨d', .mk hus hys hb, hd⟩

theorem spelled_print {ds : List Declaration} (n : Nat) (h : ∀ d ∈ ds, d.IsWritable) :
    Spelled (print n ds) rest fun ts => ∃ ds', IsFile file ts ds' ∧
      ds'.map Declaration.unlocated = ds.map Declaration.unlocated :=
  .join fun d hd rest => spelled_declaration rest file n (h d hd)

end

/-- A text that spells a sentence is read as what the sentence denotes. -/
theorem readDeclarations_of_spells {text : String} {file : Option String} {ts : List Token}
    {ds : List Declaration} (h : Spells [] .start text.toList ts) (hf : IsFile file ts ds) :
    readDeclarations text file = .ok ds := by
  obtain ⟨r, hs, hr⟩ := steps_of_isFile hf
  obtain ⟨k, hk, rfl⟩ := h.scans (k := .start file) hs
  exact (Cursor.run_eq_ok_iff (k := .start file)).mpr ⟨ts, k, hk, hr⟩

/-! ## The round trip -/

theorem parse_print {ds : List Declaration} (file : Option String) (n : Nat) (hv : Naming.check ds = .ok ())
    (h : ∀ d ∈ ds, d.IsWritable) :
    ∃ ds', parse (print n ds) file = .ok ds' ∧
      ds'.map Declaration.unlocated = ds.map Declaration.unlocated := by
  obtain ⟨ts, hs, ds', hf, he⟩ := spelled_print [] file n h .start
  refine ⟨ds', ?_, he⟩
  rw [parse_of_read (readDeclarations_of_spells hs hf), Naming.check_of_unlocated he hv]
  rfl

def orders : List Declaration :=
  [{ kind := .record, name := "Order", docs := ["An order."]
     directives := [⟨"entity", [⟨some "events", .text "E"⟩, ⟨none, .integer (-5)⟩], none⟩]
     fields := [⟨"key", ⟨"list", [⟨"uuid.UUID", []⟩]⟩, .exposed, [" its key"], none⟩] },
   { kind := .synonym, name := "Item", target := some ⟨"string", []⟩ }]

theorem isDotted_of_isName {s : String} (h : IsName s) : IsDotted s :=
  ⟨[s], by simp, by simpa using h, String.intercalate_singleton.symm⟩

theorem orders_isWritable : ∀ d ∈ orders, d.IsWritable := by
  intro d hd
  simp only [orders, List.mem_cons, List.not_mem_nil, or_false] at hd
  rcases hd with rfl | rfl
  · refine ⟨by decide, ?_, by decide, ?_, by simp, by simp, ⟨rfl, rfl⟩⟩
    · intro x hx
      obtain rfl := List.mem_singleton.mp hx
      refine ⟨by decide, fun a ha => ?_⟩
      simp only [List.mem_cons, List.not_mem_nil, or_false] at ha
      rcases ha with rfl | rfl
      · refine ⟨by rintro n ⟨⟩; decide, .text ⟨['E', '"'], rfl, ?_⟩⟩
        exact .plain (by decide) (by decide) (by decide) .close
      · exact ⟨by simp, .integer (by decide)⟩
    · intro f hf
      obtain rfl := List.mem_singleton.mp hf
      refine ⟨by decide, ?_, by decide⟩
      simp only [TypeRef.IsWritable, TypeRef.AreWritable, and_true]
      exact ⟨isDotted_of_isName (by decide), ["uuid", "UUID"], by decide, by decide, by decide⟩
  · refine ⟨by decide, by simp, by simp, by simp, by simp, ?_, ⟨rfl, rfl, rfl⟩⟩
    rintro t ⟨⟩
    simp only [TypeRef.IsWritable, TypeRef.AreWritable, and_true]
    exact isDotted_of_isName (by decide)

theorem parse_print_orders : Naming.check orders = .ok () ∧ (∀ d ∈ orders, d.IsWritable) ∧
    ∃ ds', parse (print 2 orders) none = .ok ds' ∧
      ds'.map Declaration.unlocated = orders.map Declaration.unlocated := by
  have hv : Naming.check orders = .ok () := by rfl
  exact ⟨hv, orders_isWritable, parse_print none 2 hv orders_isWritable⟩

end DomainModel
