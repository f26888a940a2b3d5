import DomainModel.CommandLine.Signs
import DomainModel.Text.Lines
import DomainModel.Text.Width

/-!
# The error console

Error lines go to a console that has codes of its own: a name between colons is replaced by the
sign it stands for, a bracket that opens no style may be escaped, some control characters are left
out, and tabs become blanks. A message is protected from being taken for styles, and from nothing
else.
-/

namespace DomainModel.Console

/-! ## Signs -/

/-- The endings of a name that ask for a sign as text or as a picture, and what asks for that behind
the sign. -/
def variants : List (List Char × Char) :=
  [("-text".toList, '\ufe0e'), ("-emoji".toList, '\ufe0f')]

/-- The capital letters of names that are no plain ones, each with its small letter. -/
def capitals : List (Char × Char) :=
  [('Ã', 'ã'), ('Å', 'å'), ('Ç', 'ç'), ('É', 'é'), ('Í', 'í'), ('Ô', 'ô'), ('\u212a', 'k'),
   ('\u212b', 'å')]

def small (c : Char) : Char := (capitals.lookup c).getD c.toLower

/-- The sign that a name between colons stands for, in the variant that it asks for. -/
def sign? (name : List Char) : Option (List Char) :=
  let (stem, variant) : List Char × List Char :=
    match variants.find? fun v => v.1.isSuffixOf name with
    | some (ending, mark) => (name.take (name.length - ending.length), [mark])
    | none => (name, [])
  (Signs.sign? (stem.map small)).map (· ++ variant)

/-- The name between a colon that was just read and the next one, if nothing blank is between them,
and what stands behind. -/
def code? : List Char → Option (List Char × List Char)
  | [] => none
  | c :: cs =>
    if c = ':' then some ([], cs)
    else if Lines.isSpace c then none
    else (code? cs).map fun (name, rest) => (c :: name, rest)

theorem length_of_code? {cs name rest : List Char} (h : code? cs = some (name, rest)) :
    rest.length < cs.length := by
  induction cs generalizing name with
  | nil => simp [code?] at h
  | cons c cs ih =>
    by_cases hc : c = ':'
    · simp [code?, hc] at h
      simp [h.2]
    · by_cases hs : Lines.isSpace c = true
      · simp [code?, hc, hs] at h
      · simp only [code?, hc, hs, if_false, Bool.false_eq_true] at h
        obtain ⟨⟨n, r⟩, hr, e⟩ := Option.map_eq_some_iff.1 h
        cases e
        exact Nat.lt_succ_of_lt (ih hr)

/-- Replaces each name between colons that has a sign. The colons of a name without one are spent
too. -/
def replaceCodes (cs : List Char) : List Char :=
  match cs with
  | [] => []
  | c :: cs =>
    if c = ':' then
      match h : code? cs with
      | some (name, rest) =>
        have := length_of_code? h
        match sign? name with
        | some sign => sign ++ replaceCodes rest
        | none => ':' :: name ++ ':' :: replaceCodes rest
      | none => ':' :: replaceCodes cs
    else c :: replaceCodes cs
termination_by cs.length

/-! ## Styles -/

/-- Whether a style could be named behind an opening bracket: up to the closing one there is no
second opening one. -/
def opensStyle : List Char → Bool
  | [] => false
  | c :: cs =>
    (c.isLower || c = '#' || c = '/' || c = '@') &&
      (cs.find? fun c => c = ']' || c = '[') = some ']'

/-- A backslash in front of a bracket that opens no style is taken for an escape. -/
def dropEscapes : List Char → List Char
  | [] => []
  | '\\' :: '[' :: cs =>
    if opensStyle cs then '\\' :: '[' :: dropEscapes cs else '[' :: dropEscapes cs
  | c :: cs => c :: dropEscapes cs

def extend (c : Char) : List (List Char) → List (List Char)
  | [] => [[c]]
  | cs :: rest => (c :: cs) :: rest

/-- The stretches of a text that look like styles, brackets included, and those between them. -/
def stretches : (inStyle : Bool) → List Char → List (List Char)
  | _, [] => [[]]
  | true, c :: cs => if c = ']' then [c] :: stretches false cs else extend c (stretches true cs)
  | false, c :: cs =>
    if c = '[' ∧ opensStyle cs then [] :: extend c (stretches true cs)
    else extend c (stretches false cs)

/-! ## Blanks -/

def isLeftOut (c : Char) : Bool :=
  c = '\x07' || c = '\x08' || c = '\x0b' || c = '\x0c' || c = '\r'

def tabWidth : Nat := 8

/-- The blanks from a column to the next one of the tabs; none, if it is one itself. -/
def padding (column : Nat) : Nat := (tabWidth - column % tabWidth) % tabWidth

/-- Puts blanks in the place of tabs: one for each, and as many as lead to the next column of the tabs.
The columns are counted from the start of a line, on which `part` follows the last tab at `column`. -/
def expandTabs : (column : Nat) → (part : List Char) → List Char → List Char
  | _, part, [] => part
  | column, part, c :: cs =>
    if c = '\n' then part ++ c :: expandTabs 0 [] cs
    else if c = '\t' then
      let part := part ++ [' ']
      let reached := column + Width.ofText part
      let blanks := padding reached
      part ++ List.replicate blanks ' ' ++ expandTabs (reached + blanks) [] cs
    else expandTabs column (part ++ [c]) cs

/-! ## Control sequences -/

/-- What stands behind a control sequence, of which an escape and a bracket were read. -/
def behindControl? (cs : List Char) : Option (List Char) :=
  let cs := cs.dropWhile fun c => '0' ≤ c && c ≤ '?'
  let cs := cs.dropWhile fun c => ' ' ≤ c && c ≤ '/'
  match cs with
  | [] => none
  | c :: rest => if '@' ≤ c ∧ c ≤ '~' then some rest else none

theorem length_of_behindControl? {cs rest : List Char} (h : behindControl? cs = some rest) :
    rest.length < cs.length := by
  have drop (p : Char → Bool) (l : List Char) : (l.dropWhile p).length ≤ l.length :=
    (List.dropWhile_suffix p).length_le
  unfold behindControl? at h
  simp only at h
  split at h
  · simp at h
  · next c r e =>
    split at h
    · cases h
      have l := congrArg List.length e
      simp only [List.length_cons] at l
      have := drop (fun c => ' ' ≤ c && c ≤ '/') (cs.dropWhile fun c => '0' ≤ c && c ≤ '?')
      have := drop (fun c => '0' ≤ c && c ≤ '?') cs
      omega
    · simp at h

def plain (cs : List Char) : List Char :=
  match cs with
  | [] => []
  | c :: cs =>
    if c = '\x1b' ∧ cs.head? = some '[' then
      match h : behindControl? cs.tail with
      | some rest =>
        have := length_of_behindControl? h
        plain rest
      | none => c :: plain cs
    else c :: plain cs
termination_by cs.length
decreasing_by
  all_goals simp_all
  all_goals omega

/-! ## Messages -/

/-- A message as the console shows it. No name between colons goes across the bracket of a style. -/
def shown (message : String) : List Char :=
  ((stretches false (dropEscapes message.toList)).flatMap replaceCodes).filter (!isLeftOut ·)

def line (label message : String) : String :=
  String.ofList (expandTabs 0 [] ((label ++ ": ").toList ++ shown message)) ++ "\n"

end DomainModel.Console
