import DomainModel.Text.Quoted

/-!
# Data

A tree of texts, numbers, lists and records, and its written form in the JSON format: two spaces
to a level, one element a line, and ASCII characters only.
-/

namespace DomainModel

inductive Datum
  | null
  | text (s : String)
  | integer (n : Int)
  | list (items : List Datum)
  | record (entries : List (String × Datum))
deriving Repr, Inhabited

namespace Datum

def optional (f : α → Datum) : Option α → Datum
  | some x => f x
  | none => null

def texts (items : List String) : Datum := list (items.map text)

/-! ## Texts -/

def unitEscape (n : Nat) : List Char := '\\' :: 'u' :: Quoted.hex 4 n

/-- A character outside ASCII is written as its one or two 16-bit units. -/
def escape (c : Char) : List Char :=
  if c = '"' ∨ c = '\\' then ['\\', c]
  else if c = '\n' then ['\\', 'n']
  else if c = '\r' then ['\\', 'r']
  else if c = '\t' then ['\\', 't']
  else if c = '\x08' then ['\\', 'b']
  else if c = '\x0c' then ['\\', 'f']
  else if 0x20 ≤ c.toNat ∧ c.toNat < 0x7f then [c]
  else if c.toNat < 0x10000 then unitEscape c.toNat
  else
    let n := c.toNat - 0x10000
    unitEscape (0xd800 + n / 0x400) ++ unitEscape (0xdc00 + n % 0x400)

def quoted (s : String) : String := String.ofList ('"' :: s.toList.flatMap escape ++ ['"'])

/-! ## Layout -/

def newline (level : Nat) : String := String.ofList ('\n' :: List.replicate (2 * level) ' ')

mutual

/-- The written form of a datum whose inner lines are indented to `level`. -/
def write (level : Nat) : Datum → String
  | null => "null"
  | text s => quoted s
  | integer n => toString n
  | list [] => "[]"
  | list (d :: ds) =>
    "[" ++ newline (level + 1) ++ d.write (level + 1) ++ writeItems (level + 1) ds
      ++ newline level ++ "]"
  | record [] => "\x7b\x7d"
  | record (e :: es) =>
    "\x7b" ++ newline (level + 1) ++ quoted e.1 ++ ": " ++ e.2.write (level + 1)
      ++ writeEntries (level + 1) es ++ newline level ++ "\x7d"

def writeItems (level : Nat) : List Datum → String
  | [] => ""
  | d :: ds => "," ++ newline level ++ d.write level ++ writeItems level ds

def writeEntries (level : Nat) : List (String × Datum) → String
  | [] => ""
  | e :: es =>
    "," ++ newline level ++ quoted e.1 ++ ": " ++ e.2.write level ++ writeEntries level es

end

def pretty (d : Datum) : String := d.write 0

end Datum

end DomainModel
