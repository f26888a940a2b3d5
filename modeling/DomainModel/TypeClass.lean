/-!
# Classes of field types

What a directive asks of a field is the class of its type, which is read off the type's name alone:
no alias is followed and no type argument is looked at.
-/

namespace DomainModel

inductive TypeClass
  | identifier
  | integer
  /-- An unsigned 64-bit integer, which doubles as a time and is an integer too. -/
  | timestamp
  | other
deriving Repr, DecidableEq

namespace TypeClass

def text : TypeClass → String
  | identifier => "identifier"
  | integer => "integer"
  | timestamp => "timestamp"
  | other => "other"

def isInteger : TypeClass → Bool
  | integer | timestamp => true
  | identifier | other => false

def timestampName : String := "uint64"

def integerNames : List String :=
  ["int8", "int16", "int32", "int64", "int128", "uint8", "uint16", "uint32", "uint64", "uint128"]

def occursIn (word : List Char) : List Char → Bool
  | [] => word.isEmpty
  | c :: cs => word.isPrefixOf (c :: cs) || occursIn word cs

/-- A name marks an identifier if `uuid` occurs in it, in whatever case. Of the characters outside
ASCII none has `u` or `d` as its small letter, and none has `i` without an accent after it, so the
ASCII letters decide. -/
def marksIdentifier (name : String) : Bool :=
  occursIn "uuid".toList (name.toList.map Char.toLower)

def ofName (name : String) : TypeClass :=
  if marksIdentifier name then identifier
  else if name = timestampName then timestamp
  else if name ∈ integerNames then integer
  else other

end TypeClass

end DomainModel
