import DomainModel.Proofs.CommandLine.Signs

/-!
# Messages that are shown as they are

What the console does to a message leaves it as it is or takes from it some of the characters that the console acts on, and
nothing puts them back. So a line holds its message as it is exactly if nothing at all is done to it (`line_eq_iff`).
-/

namespace DomainModel.Console

/-! ## What happens to a text -/

/-- A text becomes another: it stays the same if `p` holds, and else there is less in it to act on. -/
structure Becomes (p : Prop) (a b : List Char) : Prop where
  same : p → b = a
  fewer : ¬p → activity b < activity a

namespace Becomes
variable {p q : Prop} {a b c d : List Char}

theorem le (h : Becomes p a b) : activity b ≤ activity a := by
  by_cases hp : p
  · exact Nat.le_of_eq (congrArg activity (h.same hp))
  · exact Nat.le_of_lt (h.fewer hp)

theorem eq_iff (h : Becomes p a b) : b = a ↔ p := by
  by_cases hp : p
  · exact iff_of_true (h.same hp) hp
  · refine iff_of_false (fun he => ?_) hp
    exact absurd (h.fewer hp) (by simp [he])

theorem refl (a : List Char) : Becomes True a a := ⟨fun _ => rfl, fun h => absurd trivial h⟩

theorem congr (h : Becomes p a b) (hpq : p ↔ q) : Becomes q a b :=
  ⟨fun hq => h.same (hpq.mpr hq), fun hq => h.fewer fun hp => hq (hpq.mp hp)⟩

theorem of_lt (hp : ¬p) (h : activity b < activity a) : Becomes p a b := ⟨fun h => absurd h hp, fun _ => h⟩

theorem append (h : Becomes p a b) (h' : Becomes q c d) : Becomes (p ∧ q) (a ++ c) (b ++ d) := by
  refine ⟨fun ⟨hp, hq⟩ => by rw [h.same hp, h'.same hq], fun hpq => ?_⟩
  have hle := h.le
  have hle' := h'.le
  rw [activity_append, activity_append]
  by_cases hp : p
  · have := h'.fewer fun hq => hpq ⟨hp, hq⟩
    omega
  · have := h.fewer hp
    omega

theorem append_left (x : List Char) (h : Becomes p a b) : Becomes p (x ++ a) (x ++ b) :=
  ((refl x).append h).congr (by simp)

theorem cons (x : Char) (h : Becomes p a b) : Becomes p (x :: a) (x :: b) := h.append_left [x]

/-- What happens one after the other. The second condition is on what the first step leaves, which is the text itself where
it counts. -/
theorem trans {q : List Char → Prop} (h : Becomes p a b) (h' : Becomes (q b) b c) : Becomes (p ∧ q a) a c := by
  by_cases hp : p
  · obtain rfl := h.same hp
    exact h'.congr (by simp [hp])
  · exact of_lt (fun hpq => hp hpq.1) (Nat.lt_of_le_of_lt h'.le (h.fewer hp))

theorem flatMap {f : List Char → List Char} {p : List Char → Prop} (h : ∀ x, Becomes (p x) x (f x))
    (xs : List (List Char)) : Becomes (∀ x ∈ xs, p x) xs.flatten (xs.flatMap f) := by
  induction xs with
  | nil => exact (refl []).congr (by simp)
  | cons x xs ih => exact ((h x).append ih).congr (by simp)

end Becomes

/-! ## Escapes -/

def IsUnescaped (cs : List Char) : Prop := ∀ b, '\\' :: '[' :: b <:+ cs → opensStyle b = true

theorem isUnescaped_cons {c : Char} {cs : List Char} :
    IsUnescaped (c :: cs) ↔ (∀ b, c = '\\' → cs = '[' :: b → opensStyle b = true) ∧ IsUnescaped cs := by
  simp only [IsUnescaped, List.suffix_cons_iff, List.cons.injEq, or_imp, forall_and]
  refine and_congr_left fun _ => forall_congr' fun b => ?_
  exact ⟨fun h hc he => h ⟨hc.symm, he.symm⟩, fun h he => h he.1.symm he.2.symm⟩

theorem becomes_dropEscapes (cs : List Char) : Becomes (IsUnescaped cs) cs (dropEscapes cs) := by
  fun_induction dropEscapes cs with
  | case1 => exact (Becomes.refl []).congr (by simp [IsUnescaped])
  | case2 cs hopens ih => exact ((ih.cons '[').cons '\\').congr (by simp [isUnescaped_cons, hopens])
  | case3 cs hopens ih =>
    apply Becomes.of_lt
    · simp [isUnescaped_cons, hopens]
    · have := ih.le
      simp +decide [activity_cons]
      omega
  | case4 c cs hother ih =>
    refine (ih.cons c).congr ?_
    rw [isUnescaped_cons]
    exact ⟨fun h => ⟨fun b hc hcs => absurd hcs (hother b hc), h⟩, fun h => h.2⟩

/-! ## Codes -/

theorem code?_eq_some {cs name rest : List Char} (h : code? cs = some (name, rest)) : cs = name ++ ':' :: rest := by
  induction cs generalizing name with
  | nil => cases h
  | cons c cs ih =>
    unfold code? at h
    split at h
    · next hc =>
      cases h
      rw [hc]
      rfl
    · split at h
      · cases h
      · obtain ⟨⟨n, r⟩, hcode, he⟩ := Option.map_eq_some_iff.mp h
        cases he
        rw [ih hcode]
        rfl

/-- The names between colons, read from the left. A colon that ends one name begins no other. -/
def codes (cs : List Char) : List (List Char) :=
  match cs with
  | [] => []
  | c :: cs =>
    if c = ':' then
      match h : code? cs with
      | some (name, rest) =>
        have := length_of_code? h
        name :: codes rest
      | none => codes cs
    else codes cs
termination_by cs.length

theorem codes_colon {cs name rest : List Char} (h : code? cs = some (name, rest)) :
    codes (':' :: cs) = name :: codes rest := by
  rw [codes, if_pos rfl]
  split
  · next h' =>
    cases h.symm.trans h'
    rfl
  · next h' => cases h.symm.trans h'

theorem codes_cons {c : Char} {cs : List Char} (h : c = ':' → code? cs = none) : codes (c :: cs) = codes cs := by
  rw [codes]
  split
  · next hc =>
    split
    · next h' => cases (h hc).symm.trans h'
    · rfl
  · rfl

theorem codes_append {a : List Char} (h : ':' ∉ a) (b : List Char) : codes (a ++ b) = codes b := by
  induction a with
  | nil => rfl
  | cons c a ih =>
    rw [List.mem_cons, not_or] at h
    rw [List.cons_append, codes_cons fun hc => absurd hc.symm h.1]
    exact ih h.2

theorem code?_append {name : List Char} (h : ∀ c ∈ name, c ≠ ':' ∧ Lines.isSpace c = false) (rest : List Char) :
    code? (name ++ ':' :: rest) = some (name, rest) := by
  induction name with
  | nil => simp [code?]
  | cons c name ih =>
    obtain ⟨hc, hspace⟩ := h c List.mem_cons_self
    rw [List.cons_append, code?, if_neg hc, hspace, ih fun c hc => h c (List.mem_cons_of_mem _ hc)]
    rfl

theorem becomes_replaceCodes (cs : List Char) : Becomes (∀ name ∈ codes cs, sign? name = none) cs (replaceCodes cs) := by
  fun_induction replaceCodes cs with
  | case1 => exact (Becomes.refl []).congr (by simp [codes])
  | case2 cs name rest hcode _ sign hsign ih =>
    rw [codes_colon hcode, code?_eq_some hcode]
    apply Becomes.of_lt
    · simp [hsign]
    · have := ih.le
      simp +decide [activity_cons, activity_sign hsign]
      omega
  | case3 cs name rest hcode _ hsign ih =>
    rw [codes_colon hcode, code?_eq_some hcode]
    exact (((ih.cons ':').append_left name).cons ':').congr (by simp [hsign])
  | case4 cs hcode ih =>
    rw [codes_cons fun _ => hcode]
    exact ih.cons ':'
  | case5 c cs hc ih =>
    rw [codes_cons fun h => absurd h hc]
    exact ih.cons c

theorem flatten_extend (c : Char) (css : List (List Char)) : (extend c css).flatten = c :: css.flatten := by
  cases css <;> rfl

theorem flatten_stretches (inStyle : Bool) (cs : List Char) : (stretches inStyle cs).flatten = cs := by
  fun_induction stretches inStyle cs <;> simp_all [flatten_extend]

/-- No name between colons, within the brackets of a style or between styles, has a sign. -/
def IsUncoded (cs : List Char) : Prop := ∀ s ∈ stretches false cs, ∀ name ∈ codes s, sign? name = none

theorem becomes_stretches (cs : List Char) : Becomes (IsUncoded cs) cs ((stretches false cs).flatMap replaceCodes) := by
  have h := Becomes.flatMap becomes_replaceCodes (stretches false cs)
  rwa [flatten_stretches] at h

/-! ## Controls and tabs -/

def IsPrinted (cs : List Char) : Prop := ∀ c ∈ cs, isLeftOut c = false

def IsUntabbed (cs : List Char) : Prop := '\t' ∉ cs

theorem becomes_filter (cs : List Char) : Becomes (IsPrinted cs) cs (cs.filter (!isLeftOut ·)) := by
  induction cs with
  | nil => exact (Becomes.refl []).congr (by simp [IsPrinted])
  | cons c cs ih =>
    by_cases hc : isLeftOut c = true
    · rw [List.filter_cons_of_neg (by simp [hc])]
      apply Becomes.of_lt
      · simp [IsPrinted, hc]
      · have := ih.le
        simp [activity_cons, isActive, hc]
        omega
    · rw [List.filter_cons_of_pos (by simpa using hc)]
      exact (ih.cons c).congr (by simp [IsPrinted, hc])

theorem activity_blanks (n : Nat) : activity (List.replicate n ' ') = 0 :=
  activity_eq_zero.mpr fun c hc => by rw [List.eq_of_mem_replicate hc]; rfl

theorem becomes_expandTabs (column : Nat) (part cs : List Char) :
    Becomes (IsUntabbed cs) (part ++ cs) (expandTabs column part cs) := by
  fun_induction expandTabs column part cs with
  | case1 column part =>
    rw [List.append_nil]
    exact (Becomes.refl part).congr (by simp [IsUntabbed])
  | case2 column part cs ih => exact ((ih.cons '\n').append_left part).congr (by simp [IsUntabbed])
  | case3 column part cs padded reached blanks _ ih =>
    apply Becomes.of_lt
    · simp [IsUntabbed]
    · have := ih.le
      simp +decide [activity_cons, activity_blanks, padded, reached, blanks] at this ⊢
      omega
  | case4 column part c cs hfeed htab ih =>
    rw [List.append_assoc] at ih
    exact ih.congr (by simp [IsUntabbed, Ne.symm htab])

/-! ## Lines -/

/-- A message in which the console finds nothing to do: no escape, no name with a sign, no control and no tab. -/
structure IsClear (message : List Char) : Prop where
  unescaped : IsUnescaped message
  uncoded : IsUncoded message
  printed : IsPrinted message
  untabbed : IsUntabbed message

theorem becomes_shown (message : String) :
    Becomes ((IsUnescaped message.toList ∧ IsUncoded message.toList) ∧ IsPrinted message.toList)
      message.toList (shown message) :=
  ((becomes_dropEscapes _).trans (becomes_stretches _)).trans (becomes_filter _)

variable {label : String}

theorem becomes_line (hlabel : '\t' ∉ label.toList) (message : String) :
    Becomes (IsClear message.toList) (label ++ ": " ++ message ++ "\n").toList (line label message).toList := by
  have hshown : Becomes _ _ (expandTabs 0 [] ((label ++ ": ").toList ++ shown message)) :=
    ((becomes_shown message).append_left (label ++ ": ").toList).trans (becomes_expandTabs 0 [] _)
  have hline : (line label message).toList = expandTabs 0 [] ((label ++ ": ").toList ++ shown message) ++ "\n".toList := by
    simp [line]
  rw [String.toList_append, String.toList_append, hline]
  refine (hshown.append (.refl _)).congr ?_
  constructor
  · rintro ⟨⟨⟨⟨hescapes, hcodes⟩, hcontrols⟩, htabs⟩, -⟩
    exact ⟨hescapes, hcodes, hcontrols, fun h => htabs (List.mem_append_right _ h)⟩
  · intro h
    refine ⟨⟨⟨⟨h.unescaped, h.uncoded⟩, h.printed⟩, ?_⟩, trivial⟩
    simpa [IsUntabbed, hlabel] using h.untabbed

theorem line_eq_iff (hlabel : '\t' ∉ label.toList) (message : String) :
    line label message = label ++ ": " ++ message ++ "\n" ↔ IsClear message.toList := by
  rw [← String.toList_inj]
  exact (becomes_line hlabel message).eq_iff

/-! ## Locations -/

/-- Nothing but a colon has to stand around such a character for the console to leave it as it is. -/
def isPlain (c : Char) : Bool := c ≠ '[' && !isActive c

theorem plain_digit {c : Char} (h : c.isDigit = true) : isPlain c = true ∧ c ≠ ':' ∧ Lines.isSpace c = false := by
  have hdigits : digits.all (fun c => isPlain c && c ≠ ':' && !Lines.isSpace c) = true := by decide
  simpa [and_assoc] using forall_digit hdigits h

theorem stretches_of_not_mem {cs : List Char} (h : '[' ∉ cs) : stretches false cs = [cs] := by
  induction cs with
  | nil => rfl
  | cons c cs ih =>
    rw [List.mem_cons, not_or] at h
    rw [stretches, if_neg fun hc => h.1 hc.1.symm, ih h.2]
    rfl

/-- Where all characters but colons are plain, only the names between colons matter. -/
theorem isClear_iff_codes {cs : List Char} (h : ∀ c ∈ cs, c = ':' ∨ isPlain c = true) :
    IsClear cs ↔ ∀ name ∈ codes cs, sign? name = none := by
  have hbracket : '[' ∉ cs := fun hc => absurd (h _ hc) (by decide)
  have hstretches := stretches_of_not_mem hbracket
  constructor
  · intro hclear
    exact hclear.uncoded cs (by simp [hstretches])
  · intro hcodes
    refine ⟨fun b hb => ?_, ?_, fun c hc => ?_, fun hc => absurd (h _ hc) (by decide)⟩
    · exact absurd (hb.mem (by simp)) hbracket
    · simpa [IsUncoded, hstretches] using hcodes
    · rcases h c hc with rfl | hplain
      · rfl
      · simp_all [isPlain, isActive]

/-- A message behind the line and the column of a file that it is about. -/
def located (file message : List Char) (line column : Nat) : List Char :=
  file ++ ':' :: (Nat.toDigits 10 line ++ ':' :: (Nat.toDigits 10 column ++ ':' :: ' ' :: message))

variable (line column : Nat) {file message : List Char}

theorem codes_located (hf : ∀ c ∈ file, isPlain c = true) :
    codes (located file message line column) = Nat.toDigits 10 line :: codes message := by
  have hcolon : ∀ cs : List Char, (∀ c ∈ cs, isPlain c = true) → ':' ∉ cs := fun cs h hc => absurd (h _ hc) (by decide)
  have hline : ∀ c ∈ Nat.toDigits 10 line, c ≠ ':' ∧ Lines.isSpace c = false := fun c hc =>
    (plain_digit (isDigit_of_mem_toDigits hc)).2
  have hcolumn : ':' ∉ Nat.toDigits 10 column := hcolon _ fun c hc => (plain_digit (isDigit_of_mem_toDigits hc)).1
  unfold located
  rw [codes_append (hcolon file hf), codes_colon (code?_append hline _), codes_append hcolumn]
  -- a blank follows the last colon
  rw [codes_cons fun _ => rfl, codes_cons fun hc => absurd hc (by decide)]

/-- The console finds something to do in a plain message about a plain file only if a name in it has a sign, or the number of
the line is one. -/
theorem isClear_located (hf : ∀ c ∈ file, isPlain c = true) (hm : ∀ c ∈ message, c = ':' ∨ isPlain c = true) :
    IsClear (located file message line column) ↔
      (line ≠ 100 ∧ line ≠ 1234) ∧ ∀ name ∈ codes message, sign? name = none := by
  have hnumber : ∀ n, ∀ c ∈ Nat.toDigits 10 n, c = ':' ∨ isPlain c = true := fun n c hc =>
    .inr (plain_digit (isDigit_of_mem_toDigits hc)).1
  have hplain : ∀ c ∈ located file message line column, c = ':' ∨ isPlain c = true := by
    intro c hc
    simp only [located, List.mem_append, List.mem_cons] at hc
    rcases hc with hc | rfl | hc | rfl | hc | rfl | rfl | hc
    · exact .inr (hf c hc)
    · exact .inl rfl
    · exact hnumber line c hc
    · exact .inl rfl
    · exact hnumber column c hc
    · exact .inl rfl
    · exact .inr rfl
    · exact hm c hc
  rw [isClear_iff_codes hplain, codes_located line column hf, ← sign?_toDigits_eq_none]
  simp

end DomainModel.Console
