import DomainModel.Text.Printable

/-!
# Quoted texts

A text is quoted in single quotes, or in double quotes if it holds a single one and no double one.
The quote and the backslash are escaped, and so is every character that is not printable.
-/

namespace DomainModel.Quoted

def quoteOf (cs : List Char) : Char := if '\'' ∈ cs ∧ '"' ∉ cs then '"' else '\''

/-- A number in hexadecimal, with zeros before it up to `width` digits. -/
def hex (width n : Nat) : List Char :=
  let digits := Nat.toDigits 16 n
  List.replicate (width - digits.length) '0' ++ digits

def escape (quote c : Char) : List Char :=
  if c = quote ∨ c = '\\' then ['\\', c]
  else if c = '\t' then ['\\', 't']
  else if c = '\n' then ['\\', 'n']
  else if c = '\r' then ['\\', 'r']
  else if Printable.isPrintable c then [c]
  else if c.toNat ≤ 0xff then '\\' :: 'x' :: hex 2 c.toNat
  else if c.toNat ≤ 0xffff then '\\' :: 'u' :: hex 4 c.toNat
  else '\\' :: 'U' :: hex 8 c.toNat

def encode (cs : List Char) : List Char :=
  let quote := quoteOf cs
  quote :: cs.flatMap (escape quote) ++ [quote]

def text (s : String) : String := String.ofList (encode s.toList)

end DomainModel.Quoted
