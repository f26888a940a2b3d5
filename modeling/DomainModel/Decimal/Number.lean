import DomainModel.Decimal.Binary64

/-!
# Number literals

A literal is a sign, digits, and perhaps a fraction and an exponent. It denotes an integer if it has
neither of the two and its digits are not too many, and a floating-point number otherwise.
-/

namespace DomainModel

structure Numeral where
  negative : Bool
  whole : List Char
  fraction : Option (List Char)
  exponent : Option Int
deriving Repr, DecidableEq

namespace Numeral

def natOfDigits (ds : List Char) : Nat :=
  ds.foldl (fun n c => 10 * n + (c.toNat - '0'.toNat)) 0

def splitSign : List Char → Bool × List Char
  | '-' :: cs => (true, cs)
  | '+' :: cs => (false, cs)
  | cs => (false, cs)

def intOfDigits (cs : List Char) : Int :=
  let (negative, ds) := splitSign cs
  if negative then -(natOfDigits ds : Int) else natOfDigits ds

/-- The parts of a literal, which is taken to be well formed. -/
def ofLexeme (lexeme : List Char) : Numeral :=
  let (negative, cs) := splitSign lexeme
  let whole := cs.takeWhile Char.isDigit
  let rest := cs.dropWhile Char.isDigit
  let (fraction, rest) : Option (List Char) × List Char :=
    match rest with
    | '.' :: r => (some (r.takeWhile Char.isDigit), r.dropWhile Char.isDigit)
    | _ => (none, rest)
  ⟨negative, whole, fraction, if rest.isEmpty then none else some (intOfDigits rest.tail)⟩

def maxIntegerDigits : Nat := 4300

/-- The integer that a literal denotes, if it denotes one. -/
def integer? (n : Numeral) : Option Int :=
  if n.fraction.isNone ∧ n.exponent.isNone ∧ n.whole.length ≤ maxIntegerDigits then
    some (if n.negative then -(natOfDigits n.whole : Int) else natOfDigits n.whole)
  else none

def float (n : Numeral) : Binary64 :=
  let part := n.fraction.getD []
  Binary64.ofDecimal n.negative (natOfDigits (n.whole ++ part))
    (n.exponent.getD 0 - part.length)

end Numeral

end DomainModel
