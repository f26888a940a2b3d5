import DomainModel.Decimal.Number
import DomainModel.Text.Digit
import DomainModel.Text.Lines

/-!
# Whole numbers in texts

A text denotes a whole number if it is digits, perhaps with a sign before them, single underscores
between them and blanks around them. The digits may be those of any script; if no character is
outside ASCII, only the blanks of ASCII count.
-/

namespace DomainModel.WholeNumber

def isBlank (c : Char) : Bool :=
  c = ' ' || c = '\t' || c = '\n' || c = '\x0b' || c = '\x0c' || c = '\r'

/-- The digit, the blank or the other character that a character outside ASCII counts as. -/
def plainChar (c : Char) : Char :=
  if c.toNat < 127 then c
  else if Lines.isSpace c then ' '
  else match Digit.value? c with
    | some d => Char.ofNat ('0'.toNat + d)
    | none => '?'

/-- A text in ASCII that denotes the same number, if it denotes one. -/
def plain (cs : List Char) : List Char :=
  if cs.all (·.toNat < 128) then cs else cs.map plainChar

def trim (cs : List Char) : List Char :=
  ((cs.dropWhile isBlank).reverse.dropWhile isBlank).reverse

/-- What a character is as a digit, of a base up to sixteen. -/
def digit? (base : Nat) (c : Char) : Option Nat :=
  let value :=
    if c.isDigit then some (c.toNat - '0'.toNat)
    else if 'a' ≤ c ∧ c ≤ 'f' then some (c.toNat - 'a'.toNat + 10)
    else if 'A' ≤ c ∧ c ≤ 'F' then some (c.toNat - 'A'.toNat + 10)
    else none
  value.filter (· < base)

def digits? (base : Nat) : List Char → Option (List Nat)
  | [] => none
  | [c] => (digit? base c).map ([·])
  | c :: '_' :: cs => (digit? base c).bind fun d => (digits? base cs).map (d :: ·)
  | c :: cs => (digit? base c).bind fun d => (digits? base cs).map (d :: ·)

def ofDigits (base : Nat) (ds : List Nat) : Nat := ds.foldl (fun n d => base * n + d) 0

def signed (negative : Bool) (n : Nat) : Int := if negative then -(n : Int) else n

/-- The number that a text denotes, unless it has too many digits. -/
def decimal? (text : String) : Option Int :=
  let (negative, cs) := Numeral.splitSign (trim (plain text.toList))
  (digits? 10 cs).bind fun ds =>
    if ds.length ≤ Numeral.maxIntegerDigits then some (signed negative (ofDigits 10 ds)) else none

/-- What stands behind the mark of a hexadecimal number; one underscore may follow the mark. -/
def dropMark : List Char → List Char
  | '0' :: x :: '_' :: cs => if x = 'x' ∨ x = 'X' then cs else '0' :: x :: '_' :: cs
  | '0' :: x :: cs => if x = 'x' ∨ x = 'X' then cs else '0' :: x :: cs
  | cs => cs

def hexadecimal? (text : List Char) : Option Int :=
  let (negative, cs) := Numeral.splitSign (trim (plain text))
  (digits? 16 (dropMark cs)).map fun ds => signed negative (ofDigits 16 ds)

/-- The text of a number, which is not written if it has too many digits. -/
def text? (n : Int) : Option String :=
  let s := toString n.natAbs
  if s.length ≤ Numeral.maxIntegerDigits then some (if n < 0 then "-" ++ s else s) else none

end DomainModel.WholeNumber
