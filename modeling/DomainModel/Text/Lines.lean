/-!
# Lines

A text is split into lines, each with the characters that end it. Besides the line feed, Unicode
has a dozen more ways to end a line, and what splits at which of them matters to the layout of a
text.
-/

namespace DomainModel.Lines

def isBreak (c : Char) : Bool :=
  c = '\n' || c = '\r' || c = '\x0b' || c = '\x0c' || c = '\x1c' || c = '\x1d' || c = '\x1e' ||
    c = '\u0085' || c = '\u2028' || c = '\u2029'

/-- The characters of no ink, those that end a line among them. -/
def isSpace (c : Char) : Bool :=
  isBreak c || c = ' ' || c = '\t' || c = '\x1f' || c = '\u00a0' || c = '\u1680' ||
    (0x2000 ≤ c.toNat && c.toNat ≤ 0x200a) || c = '\u202f' || c = '\u205f' || c = '\u3000'

theorem isSpace_of_isBreak {c : Char} (h : isBreak c = true) : isSpace c = true := by
  simp [isSpace, h]

/-- The lines of a text, each with its end; a carriage return and a line feed are one end. -/
def split : List Char → List (List Char × List Char)
  | [] => []
  | '\r' :: '\n' :: cs => ([], ['\r', '\n']) :: split cs
  | c :: cs =>
    if isBreak c then ([], [c]) :: split cs
    else
      match split cs with
      | [] => [([c], [])]
      | (line, stop) :: rest => (c :: line, stop) :: rest

/-- Every carriage return becomes a line feed, and one with the line feed behind it. -/
def unify : List Char → List Char
  | [] => []
  | '\r' :: '\n' :: cs => '\n' :: unify cs
  | c :: cs => (if c = '\r' then '\n' else c) :: unify cs

/-- The pieces of a text between its line feeds; there is one more of them than line feeds. -/
def splitFeeds : List Char → List (List Char)
  | [] => [[]]
  | c :: cs =>
    if c = '\n' then [] :: splitFeeds cs
    else
      match splitFeeds cs with
      | [] => [[c]]
      | line :: rest => (c :: line) :: rest

/-- Lines behind each other, with a line feed between every two. -/
def join (lines : List (List Char)) : List Char := ['\n'].intercalate lines

def margin : List Char := List.replicate 4 ' '

/-- Every line with ink is moved to the right; the ends of the lines are kept. -/
def indent (cs : List Char) : List Char :=
  (split cs).flatMap fun (line, stop) =>
    (if line.all isSpace then line else margin ++ line) ++ stop

def shiftLine (line : List Char) : List Char := if line.isEmpty then line else margin ++ line

/-- The first line is moved to the right, and every other line that is not empty; whatever ended a
line, a line feed ends it now. -/
def shift (cs : List Char) : List Char :=
  match (split (cs ++ ['\n'])).map Prod.fst with
  | [] => margin
  | first :: rest => join ((margin ++ first) :: rest.map shiftLine)

def clearBlank (cs : List Char) : List Char :=
  join ((splitFeeds cs).map fun line =>
    if line.all (fun c => c = ' ' || c = '\t') then [] else line)

def trimFeeds (cs : List Char) : List Char :=
  ((cs.dropWhile (· = '\n')).reverse.dropWhile (· = '\n')).reverse

end DomainModel.Lines
