/-!
# References to types

A type is a dotted name with type arguments: `map[string, list[uuid.UUID]]`. `text` is its written
form, `annotation` the form it takes in the generated module, where the built-in types have names of
their own.
-/

namespace DomainModel

structure TypeRef where
  name : String
  args : List TypeRef := []
deriving Repr, BEq, Inhabited

namespace TypeRef

mutual

def decEq : (s t : TypeRef) → Decidable (s = t)
  | ⟨m, as⟩, ⟨n, bs⟩ =>
    if hn : m = n then
      match decEqList as bs with
      | isTrue h => isTrue (by rw [hn, h])
      | isFalse h => isFalse (by intro e; injection e with _ e; exact h e)
    else isFalse (by intro e; injection e with e _; exact hn e)

def decEqList : (as bs : List TypeRef) → Decidable (as = bs)
  | [], [] => isTrue rfl
  | [], _ :: _ => isFalse (by intro e; cases e)
  | _ :: _, [] => isFalse (by intro e; cases e)
  | a :: as, b :: bs =>
    match decEq a b, decEqList as bs with
    | isTrue h, isTrue hs => isTrue (by rw [h, hs])
    | isFalse h, _ => isFalse (by intro e; injection e with e _; exact h e)
    | _, isFalse h => isFalse (by intro e; injection e with _ e; exact h e)

end

instance : DecidableEq TypeRef := decEq

mutual

/-- The written form: the name, then the arguments in brackets, if there are any. -/
def text : TypeRef → String
  | ⟨name, []⟩ => name
  | ⟨name, t :: ts⟩ => name ++ "[" ++ t.text ++ textTail ts ++ "]"

/-- The arguments after the first, each behind a comma and a space. -/
def textTail : List TypeRef → String
  | [] => ""
  | t :: ts => ", " ++ t.text ++ textTail ts

end

mutual

def mapNames (f : String → String) : TypeRef → TypeRef
  | ⟨name, args⟩ => ⟨f name, mapNamesList f args⟩

def mapNamesList (f : String → String) : List TypeRef → List TypeRef
  | [] => []
  | t :: ts => t.mapNames f :: mapNamesList f ts

end

/-- The built-in types of the declaration language and their names in the generated module. -/
def builtins : List (String × String) :=
  [("bool", "bool"), ("int8", "int"), ("int16", "int"), ("int32", "int"), ("int64", "int"),
   ("int128", "int"), ("uint8", "int"), ("uint16", "int"), ("uint32", "int"), ("uint64", "int"),
   ("uint128", "int"), ("float32", "float"), ("float64", "float"), ("bytes", "bytes"),
   ("string", "str"), ("Uuid", "UUID"), ("uuid", "UUID")]

/-- The name a type has in the generated module; a declared type keeps its own. -/
def targetName (name : String) : String := (builtins.lookup name).getD name

def annotation (t : TypeRef) : String := (t.mapNames targetName).text

end TypeRef

end DomainModel
