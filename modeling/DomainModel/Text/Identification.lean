import DomainModel.Text.Quoted
import DomainModel.Text.WholeNumber

/-!
# Universally unique identifiers

An identifier is a number of 128 bits. Its text is thirty-two hexadecimal digits in groups; as a
text to be read it may also be marked as a resource name, stand in braces, or have its hyphens
elsewhere.
-/

namespace DomainModel.Identification

-- Powers mean the same under all imports.
attribute [local instance (high)] instPowNat

def digits (n : Int) : List Char :=
  if n < 0 then '-' :: Quoted.hex 31 n.natAbs else Quoted.hex 32 n.toNat

/-- The digits in groups of eight, four, four, four and twelve. -/
def text (n : Int) : String :=
  let digits := digits n
  let group (start width : Nat) : List Char := (digits.drop start).take width
  String.ofList (group 0 8 ++ '-' :: group 8 4 ++ '-' :: group 12 4 ++ '-' :: group 16 4
    ++ '-' :: group 20 12)

/-- A text without the occurrences of a word, which is not empty. -/
def without (word : List Char) : List Char → List Char
  | [] => []
  | c :: cs =>
    if word.isPrefixOf (c :: cs) then without word (cs.drop (word.length - 1))
    else c :: without word cs
termination_by cs => cs.length
decreasing_by
  · simp only [List.length_drop, List.length_cons]
    omega
  · exact Nat.lt_succ_self _

def isBrace (c : Char) : Bool := c = '\x7b' || c = '\x7d'

/-- The digits of a text: the rest of it without marks, braces and hyphens. -/
def digitsOf (text : String) : List Char :=
  let cs := without "uuid:".toList (without "urn:".toList text.toList)
  ((cs.dropWhile isBrace).reverse.dropWhile isBrace).reverse.filter (· ≠ '-')

def ofText? (text : String) : Option Nat :=
  let digits := digitsOf text
  if digits.length = 32 then
    match WholeNumber.hexadecimal? digits with
    | some n => if 0 ≤ n then some n.toNat else none
    | none => none
  else none

/-- The number in some of the bits of an identifier, of which the first ones are left out. -/
def bits (n : Int) (skipped width : Nat) : Int := n / 2 ^ (128 - skipped - width) % 2 ^ width

/-- The version of the scheme that an identifier was made by, if it was made by the common variant.
-/
def version? (n : Int) : Option Int := if bits n 64 2 = 2 then some (bits n 48 4) else none

def variant (n : Int) : String :=
  if bits n 64 1 = 0 then "reserved for NCS compatibility"
  else if bits n 65 1 = 0 then "specified in RFC 4122"
  else if bits n 66 1 = 0 then "reserved for Microsoft compatibility"
  else "reserved for future definition"

def fieldWidths : List Nat := [32, 16, 16, 8, 8, 48]

def fields (n : Int) : List Int :=
  [bits n 0 32, bits n 32 16, bits n 48 16, bits n 64 8, bits n 72 8, bits n 80 48]

def ofFields (fields : List Int) : Int :=
  (fieldWidths.zip fields).foldl (fun n f => n * 2 ^ f.1 + f.2) 0

def bytes (n : Int) : List Nat := (List.range 16).map fun i => (bits n (8 * i) 8).toNat

/-- Bytes with those of the first three numbers each in the opposite order. -/
def swap (bs : List α) : List α :=
  (bs.take 4).reverse ++ ((bs.drop 4).take 2).reverse ++ ((bs.drop 6).take 2).reverse ++ bs.drop 8

def ofBytes (bs : List Nat) : Nat := bs.foldl (fun n b => 256 * n + b) 0

def time (n : Int) : Int := bits n 52 12 * 2 ^ (48 : Nat) + bits n 32 16 * 2 ^ (32 : Nat) + bits n 0 32

/-- The same number marked as one of the common variant, and of a version of the scheme. -/
def mark (version n : Int) : Int :=
  n - bits n 64 2 * 2 ^ (62 : Nat) + 2 ^ (63 : Nat) - bits n 48 4 * 2 ^ (76 : Nat) + version * 2 ^ (76 : Nat)

def isInRange (n : Int) : Bool := 0 ≤ n && n < 2 ^ (128 : Nat)

end DomainModel.Identification
