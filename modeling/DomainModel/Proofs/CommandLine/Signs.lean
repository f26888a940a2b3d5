import DomainModel.CommandLine.Console

/-!
# Signs and what they stand for

The console acts on few characters: colons, backslashes, tabs and some controls. No sign has any of them (`activity_sign`),
so that what is put in the place of a name is left alone afterwards. Two numbers are names that have a sign
(`sign?_toDigits_eq_none`).
-/

namespace DomainModel.Console

def isActive (c : Char) : Bool := c = ':' || c = '\\' || c = '\t' || isLeftOut c

def activity (cs : List Char) : Nat := cs.countP isActive

@[simp] theorem activity_nil : activity [] = 0 := rfl

@[simp] theorem activity_append (a b : List Char) : activity (a ++ b) = activity a + activity b := List.countP_append

theorem activity_cons (c : Char) (cs : List Char) : activity (c :: cs) = activity cs + if isActive c then 1 else 0 :=
  List.countP_cons

theorem activity_eq_zero {cs : List Char} : activity cs = 0 ↔ ∀ c ∈ cs, isActive c = false := by
  simp [activity, List.countP_eq_zero]

/-! ## The table -/

def signedNumerals : List (List Char) := [100, 1234].map (Nat.toDigits 10)

/-- Nothing in a row is acted on, and it has no other numerals than those. -/
def isPlainRow (cs : List Char) : Bool :=
  cs.all (!isActive ·) && (cs.splitOn ' ').all fun name => !name.all Char.isDigit || signedNumerals.contains name

def isLetter (c : Char) : Bool := Nat.ble 97 c.toNat && Nat.ble c.toNat 122

/-- Nothing is acted on, and no name is a numeral: what most rows are, found in one pass over the characters. The flag tells
whether the name at hand is more than digits already. -/
def areWords : Bool → List Char → Bool
  | isWord, [] => isWord
  | isWord, c :: cs =>
    if isLetter c then areWords true cs
    else if c = ' ' then isWord && areWords false cs
    else !isActive c && areWords (isWord || !c.isDigit) cs

theorem isPlainRow_iff {cs : List Char} : isPlainRow cs = true ↔ (∀ c ∈ cs, isActive c = false) ∧
    ∀ name ∈ cs.splitOn ' ', (∀ c ∈ name, c.isDigit = true) → name ∈ signedNumerals := by
  simp [isPlainRow, Classical.or_iff_not_imp_left]

theorem letter_spec {c : Char} (h : isLetter c = true) : isActive c = false ∧ c ≠ ' ' ∧ c.isDigit = false := by
  have hc : 97 ≤ c.toNat ∧ c.toNat ≤ 122 := by simpa [isLetter] using h
  have hne (d : Char) (hd : d.toNat < 97) : c ≠ d := by
    rintro rfl
    omega
  have hdigit : c.isDigit = false := Bool.eq_false_iff.mpr fun hd => by
    simp only [Char.isDigit, Bool.and_eq_true, decide_eq_true_eq, UInt32.le_iff_toNat_le] at hd
    change _ ∧ c.toNat ≤ 57 at hd
    omega
  refine ⟨?_, hne ' ' (by decide), hdigit⟩
  simp [isActive, isLeftOut, hne ':' (by decide), hne '\\' (by decide), hne '\t' (by decide), hne '\x07' (by decide),
    hne '\x08' (by decide), hne '\x0b' (by decide), hne '\x0c' (by decide), hne '\r' (by decide)]

theorem splitOn_cons_of_ne {b c : Char} (h : c ≠ b) (cs : List Char) :
    (c :: cs).splitOn b = (cs.splitOn b).modifyHead (List.cons c) := by
  rw [List.splitOn_cons_eq_if_modifyHead, if_neg (by simpa using h)]

theorem areWords_spec {isWord : Bool} {cs : List Char} (h : areWords isWord cs = true) : (∀ c ∈ cs, isActive c = false) ∧
    ∃ first rest, cs.splitOn ' ' = first :: rest ∧ (isWord = true ∨ ∃ c ∈ first, c.isDigit = false) ∧
      ∀ name ∈ rest, ∃ c ∈ name, c.isDigit = false := by
  fun_induction areWords with
  | case1 isWord => exact ⟨by simp, [], [], rfl, .inl h, by simp⟩
  | case2 isWord c cs hc ih =>
    obtain ⟨hactive, first, rest, hsplit, -, hrest⟩ := ih h
    obtain ⟨hplain, hblank, hdigit⟩ := letter_spec hc
    rw [splitOn_cons_of_ne hblank, hsplit]
    exact ⟨List.forall_mem_cons.mpr ⟨hplain, hactive⟩, c :: first, rest, rfl, .inr ⟨c, List.mem_cons_self, hdigit⟩, hrest⟩
  | case3 isWord cs hc ih =>
    obtain ⟨hword, h⟩ := Bool.and_eq_true_iff.mp h
    obtain ⟨hactive, first, rest, hsplit, hfirst, hrest⟩ := ih h
    have hfirst : ∃ c ∈ first, c.isDigit = false := hfirst.resolve_left (by decide)
    rw [List.splitOn_cons_eq_if_modifyHead, if_pos (by decide), hsplit]
    exact ⟨List.forall_mem_cons.mpr ⟨by decide, hactive⟩, [], first :: rest, rfl, .inl hword,
      List.forall_mem_cons.mpr ⟨hfirst, hrest⟩⟩
  | case4 isWord c cs _ hblank ih =>
    obtain ⟨hplain, h⟩ := Bool.and_eq_true_iff.mp h
    obtain ⟨hactive, first, rest, hsplit, hfirst, hrest⟩ := ih h
    rw [splitOn_cons_of_ne hblank, hsplit]
    refine ⟨List.forall_mem_cons.mpr ⟨by simpa using hplain, hactive⟩, c :: first, rest, rfl, ?_, hrest⟩
    rcases hfirst with hword | ⟨d, hd, hdigit⟩
    · rcases Bool.or_eq_true_iff.mp hword with hword | hdigit
      · exact .inl hword
      · exact .inr ⟨c, List.mem_cons_self, by simpa using hdigit⟩
    · exact .inr ⟨d, List.mem_cons_of_mem _ hd, hdigit⟩

theorem isPlainRow_of_areWords {cs : List Char} (h : areWords false cs = true) : isPlainRow cs = true := by
  obtain ⟨hactive, first, rest, hsplit, hfirst, hrest⟩ := areWords_spec h
  have hfirst : ∃ c ∈ first, c.isDigit = false := hfirst.resolve_left (by decide)
  have hwords : ∀ name ∈ first :: rest, ∃ c ∈ name, c.isDigit = false := List.forall_mem_cons.mpr ⟨hfirst, hrest⟩
  refine isPlainRow_iff.mpr ⟨hactive, fun name hname hdigits => ?_⟩
  rw [hsplit] at hname
  obtain ⟨c, hc, hdigit⟩ := hwords name hname
  exact absurd (hdigits c hc) (by simp [hdigit])

section
variable {rows : List String} {css : List (List Char)}

theorem cons_eq_map {cs : List Char} (h : rows = css.map String.ofList) :
    String.ofList cs :: rows = (cs :: css).map String.ofList := by
  rw [h, List.map_cons]

theorem forall_row (h : rows = css.map String.ofList) (hcss : css.all (fun cs => areWords false cs || isPlainRow cs) = true) :
    ∀ row ∈ rows, isPlainRow row.toList = true := by
  rw [h]
  intro row hrow
  obtain ⟨cs, hcs, rfl⟩ := List.mem_map.mp hrow
  rw [String.toList_ofList]
  exact (Bool.or_eq_true_iff.mp (List.all_eq_true.mp hcss cs hcs)).elim isPlainRow_of_areWords id

end

set_option maxRecDepth 20000 in
theorem isPlainRow_of_mem : ∀ row ∈ Signs.rows, isPlainRow row.toList = true := by
  unfold Signs.rows
  apply forall_row
  · -- each row is the text of its characters, which are found on the way
    repeat apply cons_eq_map
    exact List.map_nil.symm
  · decide +kernel

variable {name sign : List Char}

theorem mem_of_mem_splitOn {b c : Char} {cs l : List Char} (hl : l ∈ cs.splitOn b) (hc : c ∈ l) : c ∈ cs := by
  induction cs generalizing l with
  | nil => simp_all
  | cons d cs ih =>
    by_cases hd : d = b
    · rw [List.splitOn_cons_eq_if_modifyHead, if_pos (by simpa using hd)] at hl
      rcases List.mem_cons.mp hl with rfl | hl
      · cases hc
      · exact List.mem_cons_of_mem _ (ih hl hc)
    · rw [splitOn_cons_of_ne hd] at hl
      cases hs : cs.splitOn b with
      | nil => exact absurd hs (List.splitOn_ne_nil b cs)
      | cons first rest =>
        rw [hs] at hl ih
        rcases List.mem_cons.mp hl with rfl | hl
        · rcases List.mem_cons.mp hc with rfl | hc
          · exact List.mem_cons_self
          · exact List.mem_cons_of_mem _ (ih List.mem_cons_self hc)
        · exact List.mem_cons_of_mem _ (ih (List.mem_cons_of_mem _ hl) hc)

theorem mem_of_inRow? {row : List (List Char)} (h : Signs.inRow? name row = some sign) : name ∈ row ∧ sign ∈ row := by
  fun_induction Signs.inRow? name row with
  | case1 => simp_all
  | case2 n other rest _ ih =>
    obtain ⟨hn, hs⟩ := ih h
    exact ⟨by simp [hn], by simp [hs]⟩
  | case3 => cases h

theorem exists_row (h : Signs.sign? name = some sign) : ∃ row ∈ Signs.rows, name ∈ row.toList.splitOn ' ' ∧
    sign ∈ row.toList.splitOn ' ' := by
  obtain ⟨row, hrow, hin⟩ := List.exists_of_findSome?_eq_some h
  exact ⟨row, hrow, mem_of_inRow? hin⟩

/-- The console does not act on what a sign consists of. -/
theorem activity_sign (h : sign? name = some sign) : activity sign = 0 := by
  obtain ⟨found, hfound, rfl⟩ := Option.map_eq_some_iff.mp h
  obtain ⟨row, hrow, -, hin⟩ := exists_row hfound
  obtain ⟨hplain, -⟩ := isPlainRow_iff.mp (isPlainRow_of_mem row hrow)
  have hfound : activity found = 0 := activity_eq_zero.mpr fun c hc => hplain c (mem_of_mem_splitOn hin hc)
  have hmark : ∀ v ∈ variants, isActive v.2 = false := by decide
  rw [activity_append, hfound, Nat.zero_add]
  split
  · next ending mark hv =>
    have := hmark _ (List.mem_of_find?_eq_some hv)
    exact activity_eq_zero.mpr fun c hc => List.mem_singleton.mp hc ▸ this
  · rfl

/-! ## Numerals -/

def digits : List Char := ['0', '1', '2', '3', '4', '5', '6', '7', '8', '9']

theorem mem_digits {c : Char} (h : c.isDigit = true) : c ∈ digits := by
  simp only [Char.isDigit, Bool.and_eq_true, decide_eq_true_eq, ge_iff_le, UInt32.le_iff_toNat_le] at h
  simp only [digits, List.mem_cons, Char.ext_iff, ← UInt32.toNat_inj]
  simp at h ⊢
  omega

theorem forall_digit {P : Char → Bool} (h : digits.all P = true) {c : Char} (hc : c.isDigit = true) : P c = true :=
  List.all_eq_true.mp h c (mem_digits hc)

theorem small_of_isDigit {c : Char} (h : c.isDigit = true) : small c = c := by
  have hsmall : digits.all (fun c => small c = c) = true := by decide
  exact of_decide_eq_true (forall_digit hsmall h)

/-- A numeral asks for no variant, and has no capital letters. -/
theorem sign?_of_isDigit (h : ∀ c ∈ name, c.isDigit = true) : sign? name = Signs.sign? name := by
  have hdash : ∀ v ∈ variants, '-' ∈ v.1 := by decide
  have hvariants : variants.find? (fun v => v.1.isSuffixOf name) = none := by
    rw [List.find?_eq_none]
    intro v hv hsuffix
    have := h '-' ((List.isSuffixOf_iff_suffix.mp hsuffix).mem (hdash v hv))
    cases this
  have hsmall : name.map small = name := by
    rw [List.map_congr_left fun c hc => small_of_isDigit (h c hc), List.map_id']
  simp [sign?, hvariants, hsmall]

theorem isSome_sign?_iff (h : ∀ c ∈ name, c.isDigit = true) : (sign? name).isSome = true ↔ name ∈ signedNumerals := by
  rw [sign?_of_isDigit h]
  constructor
  · intro hsome
    obtain ⟨sign, hsign⟩ := Option.isSome_iff_exists.mp hsome
    obtain ⟨row, hrow, hin, -⟩ := exists_row hsign
    obtain ⟨-, hnumerals⟩ := isPlainRow_iff.mp (isPlainRow_of_mem row hrow)
    exact hnumerals name hin h
  · intro hmem
    have hrow : ∃ i : Nat, Signs.rows[i]?.any (fun row => (Signs.inRow? name (row.toList.splitOn ' ')).isSome) = true := by
      simp only [signedNumerals, List.map_cons, List.map_nil, List.mem_cons, List.not_mem_nil, or_false] at hmem
      rcases hmem with rfl | rfl
      · exact ⟨989, by decide +kernel⟩
      · exact ⟨991, by decide +kernel⟩
    obtain ⟨i, hi⟩ := hrow
    cases hrow : Signs.rows[i]? with
    | none => simp [hrow] at hi
    | some row =>
      rw [hrow, Option.any_some] at hi
      exact List.findSome?_isSome_iff.mpr ⟨row, List.mem_of_getElem? hrow, hi⟩

theorem isDigit_of_mem_toDigits {c : Char} {n : Nat} (h : c ∈ Nat.toDigits 10 n) : c.isDigit = true :=
  Nat.isDigit_of_mem_toDigits (by decide) (by decide) h

theorem toDigits_inj {n m : Nat} : Nat.toDigits 10 n = Nat.toDigits 10 m ↔ n = m := by
  refine ⟨fun h => ?_, fun h => by rw [h]⟩
  have := congrArg (Nat.ofDigitChars 10 · 0) h
  simpa only [Nat.ofDigitChars_ten_toDigits] using this

theorem sign?_toDigits_eq_none (n : Nat) : sign? (Nat.toDigits 10 n) = none ↔ n ≠ 100 ∧ n ≠ 1234 := by
  rw [← Option.not_isSome_iff_eq_none, isSome_sign?_iff fun c hc => isDigit_of_mem_toDigits hc]
  simp [signedNumerals, toDigits_inj]

end DomainModel.Console
