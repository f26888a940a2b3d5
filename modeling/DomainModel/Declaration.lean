import DomainModel.Decimal.Number
import DomainModel.Source.Position
import DomainModel.TypeRef

/-!
# Declarations

A declaration file holds records, sums and synonyms of types, each with documentation lines and
directives. Every element remembers where its name stands, if it was read from a file.
-/

namespace DomainModel

/-- The value of a directive's argument. The grammar writes texts (a bare name or a string) and
numbers; truth values and an absent value come only from declarations that are built by hand. -/
inductive Literal
  | text (s : String)
  | integer (n : Int)
  | float (x : Binary64)
  | truth (b : Bool)
  | absent
deriving Repr, DecidableEq

def Literal.ofNumeral (n : Numeral) : Literal :=
  match n.integer? with
  | some i => .integer i
  | none => .float n.float

/-- An argument of a directive; a positional one has no name. -/
structure Argument where
  name : Option String
  value : Literal
deriving Repr, DecidableEq

structure Directive where
  name : String
  arguments : List Argument := []
  location : Option Location := none
deriving Repr, DecidableEq

inductive Visibility
  | exposed
  | hidden
deriving Repr, DecidableEq

def Visibility.text : Visibility → String
  | exposed => "public"
  | hidden => "private"

structure Field where
  name : String
  type : TypeRef
  visibility : Visibility := .hidden
  docs : List String := []
  location : Option Location := none
deriving Repr, DecidableEq

def Field.isExposed (f : Field) : Bool := f.visibility = .exposed

structure Variant where
  name : String
  payload : TypeRef
  docs : List String := []
  location : Option Location := none
deriving Repr, DecidableEq

inductive Kind
  | record
  | sum
  | synonym
deriving Repr, DecidableEq

def Kind.text : Kind → String
  | record => "record"
  | sum => "sum"
  | synonym => "alias"

/-- A declaration that was read holds only what its kind has: a record fields, a sum variants, a
synonym its target. One that is built by hand may hold more, and is taken as it is. -/
structure Declaration where
  kind : Kind
  name : String
  directives : List Directive := []
  docs : List String := []
  fields : List Field := []
  variants : List Variant := []
  target : Option TypeRef := none
  location : Option Location := none
deriving Repr, DecidableEq

end DomainModel
