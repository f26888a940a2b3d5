import DomainModel.Text.Docstring

/-!
# Members

The members that generated classes are made of, and their source. The source of a member starts in
the first column and ends with a line feed; the class puts it into its body.
-/

namespace DomainModel

/-- What an accessor gives: a stored field, or the whole number that it denotes. -/
inductive Reading
  | stored (field : String)
  | count (field : String)
deriving Repr, DecidableEq

def slot (field : String) : String := "_" ++ field

def Reading.text : Reading → String
  | stored field => "self." ++ slot field
  | count field => "int(self." ++ slot field ++ ")"

inductive Member
  | accessor (name annotation : String) (reading : Reading) (docs : List String)
  /-- An accessor of a stored field that can also be assigned. -/
  | property (name annotation : String) (docs : List String)
  /-- Equality, within the instances of a class, by a stored field. -/
  | equality (owner field : String)
  | hash (field : String)
  | display (field : String)
  | clone (owner field : String)
  | tryFrom (owner field annotation error : String)
  /-- An accessor of a sum that asks the payload, whatever its variant. -/
  | dispatch (owner : String) (variants : List String) (name annotation : String)
deriving Repr, DecidableEq

namespace Member

def name : Member → String
  | accessor name _ _ _ => name
  | property name _ _ => name
  | equality _ _ => "__eq__"
  | hash _ => "__hash__"
  | display _ => "__str__"
  | clone _ _ => "clone"
  | tryFrom _ _ _ _ => "try_from"
  | dispatch _ _ name _ => name

def ofLines (lines : List String) : String := String.join (lines.map (· ++ "\n"))

/-- The lines of a documentation string in a function's body; none without documentation. -/
def docLines (docs : List String) : List String :=
  if docs.isEmpty then [] else [Docstring.bodyText docs]

def caseLines (owner name variant : String) : List String :=
  ["        case " ++ owner ++ "." ++ variant ++ "(payload):",
   "            return payload." ++ name]

def source : Member → String
  | accessor name annotation reading docs =>
    ofLines (["@property", "def " ++ name ++ "(self) -> " ++ annotation ++ ":"] ++ docLines docs
      ++ ["    return " ++ reading.text])
  | property name annotation docs =>
    ofLines (["@property", "def " ++ name ++ "(self) -> " ++ annotation ++ ":"] ++ docLines docs
      ++ ["    return self." ++ slot name, "", "@" ++ name ++ ".setter",
        "def " ++ name ++ "(self, value: " ++ annotation ++ ") -> None:",
        "    self." ++ slot name ++ " = value"])
  | equality owner field =>
    ofLines ["def __eq__(self, other: object) -> bool:",
      "    if not isinstance(other, " ++ owner ++ "):",
      "        return NotImplemented",
      "    return self." ++ slot field ++ " == other." ++ slot field]
  | hash field =>
    ofLines ["def __hash__(self) -> int:", "    return hash(self." ++ slot field ++ ")"]
  | display field =>
    ofLines ["def __str__(self) -> str:", "    return str(self." ++ slot field ++ ")"]
  | clone owner field =>
    ofLines ["def clone(self) -> " ++ owner ++ ":",
      "    return type(self)(" ++ field ++ "=_copy.copy(self." ++ slot field ++ "))",
      "",
      "__copy__ = clone"]
  | tryFrom owner field annotation error =>
    ofLines ["@classmethod",
      "def try_from(cls, " ++ field ++ ": " ++ annotation ++ ") -> " ++ owner ++ ":",
      "    \"\"\"Validate ``" ++ field ++ "`` and wrap it in a new " ++ owner ++ ".",
      "",
      "    Raises:",
      "        " ++ error ++ ": ``validate`` rejected the value.",
      "    \"\"\"",
      "    if not cls.validate(" ++ field ++ "):",
      "        raise " ++ error ++ "(" ++ field ++ ")",
      "    return cls(" ++ field ++ "=" ++ field ++ ")"]
  | dispatch owner variants name annotation =>
    ofLines (["@property", "def " ++ name ++ "(self) -> " ++ annotation ++ ":"]
      ++ if variants.isEmpty then ["    raise TypeError(\"" ++ owner ++ " has no variants\")"]
        else "    match self:" :: variants.flatMap (caseLines owner name))

/-- A source as it goes into a class: blank lines are empty, and no line feeds are left at its
ends. -/
def tidy (source : String) : String :=
  String.ofList (Lines.trimFeeds (Lines.clearBlank source.toList))

/-- A member under a name takes the place of the one that has the name already. -/
def put (m : Member) : List Member → List Member
  | [] => [m]
  | x :: xs => if x.name = m.name then m :: xs else x :: put m xs

end Member

end DomainModel
