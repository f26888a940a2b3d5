import DomainModel.Declaration
import DomainModel.Text.Quoted

/-!
# Diagnostics

What can be wrong with a file, from its syntax to the fit of a directive. A cause has one
constructor per rule; its wording is in `message`. A `Violation` is a cause that is not tied to a
declaration yet.
-/

namespace DomainModel

inductive Category
  | syntactic
  | declaration
  | shape
  | precondition
  | directive
deriving Repr, DecidableEq

def Category.text : Category → String
  | syntactic => "syntax"
  | declaration => "declaration"
  | shape => "shape"
  | precondition => "precondition"
  | directive => "directive"

inductive SyntaxFault
  | unexpectedToken (lexeme : String)
  | unexpectedCharacter (c : Char)
  | unexpectedEnd
deriving Repr, DecidableEq

def SyntaxFault.message : SyntaxFault → String
  | unexpectedToken lexeme => "unexpected token " ++ Quoted.text lexeme
  | unexpectedCharacter c => "unexpected character " ++ Quoted.text (String.ofList [c])
  | unexpectedEnd => "unexpected end of input"

inductive Element
  | declaration
  | field
  | variant
deriving Repr, DecidableEq

def Element.text : Element → String
  | declaration => "declaration"
  | field => "field"
  | variant => "variant"

inductive NamingFault
  | reservedWord (element : Element) (name : String)
  | reservedField (name : String)
  | repeatedDeclaration (name : String) (first : Option Location)
  | repeatedField (declaration name : String)
  | repeatedVariant (declaration name : String)
deriving Repr, DecidableEq

def NamingFault.message : NamingFault → String
  | reservedWord element name => s!"{element.text} name `{name}` is a reserved word"
  | reservedField name => s!"field name `{name}` is reserved"
  | repeatedDeclaration name first =>
    let place := (first.map Location.text).getD "None"
    s!"{name} declared more than once (first at {place})"
  | repeatedField declaration name => s!"{declaration} has more than one field named {name}"
  | repeatedVariant declaration name => s!"{declaration} has more than one variant named {name}"

inductive Requirement
  | identifier
  | timestamp
  | integer
deriving Repr, DecidableEq

def Requirement.text : Requirement → String
  | identifier => "a uuid type"
  | timestamp => "type uint64"
  | integer => "an integer type"

/-- A directive does not fit its declaration, or two parts of a generated class do not fit
together. -/
inductive Violation
  | unknownDirective (name : String)
  | repeatedDirective
  | positionalArgument
  | unexpectedArgument (name : String)
  | argumentNotName (name : String)
  | indescribable (kind : Kind) (name : String)
  | notRecord
  | notSum
  | missingField (name : String) (requirement : Requirement)
  | exposedField (name : String)
  | notSingleValue
  | repeatedMember (name : String)
  /-- A name that is bound on the class later is already a member of it. -/
  | collidingMember (name : String)
deriving Repr, DecidableEq

namespace Violation

def category : Violation → Category
  | indescribable _ _ => .shape
  | notRecord | notSum | missingField _ _ | exposedField _ | notSingleValue => .precondition
  | unknownDirective _ | repeatedDirective | positionalArgument | unexpectedArgument _
  | argumentNotName _ | repeatedMember _ | collidingMember _ => .directive

def message : Violation → String
  | unknownDirective name => s!"unknown directive `@{name}`"
  | repeatedDirective => "directive applied more than once"
  | positionalArgument => "positional arguments are not supported"
  | unexpectedArgument name => s!"unexpected argument `{name}`"
  | argumentNotName name => s!"argument `{name}` must name a declaration"
  | indescribable kind name => s!"cannot describe {kind.text} {name}; expected a record or sum"
  | notRecord => "expected data structure to be a record"
  | notSum => "expected data structure to be a sum"
  | missingField name requirement => s!"expected `{name}` field with {requirement.text}"
  | exposedField name =>
    s!"cannot have any public fields, found `{name}`; state may only change through methods"
  | notSingleValue => "expected a record with a single field named `value`"
  | repeatedMember name => s!"`{name}` is already synthesized by another directive"
  | collidingMember name => s!"`{name}` collides with a generated member"

def field? : Violation → Option String
  | missingField name _ => some name
  | exposedField name => some name
  | notSingleValue => some "value"
  | _ => none

end Violation

inductive Cause
  | syntactic (fault : SyntaxFault)
  | naming (fault : NamingFault)
  /-- A violation, the declaration it was found on, and the directive it was found for. -/
  | rejected (violation : Violation) (declaration : String) (directive : Option String)
deriving Repr, DecidableEq

namespace Cause

def category : Cause → Category
  | syntactic _ => .syntactic
  | naming _ => .declaration
  | rejected violation _ _ => violation.category

/-- What a violation is reported on; an empty directive name counts as none. -/
def subject (declaration : String) : Option String → String
  | none | some "" => declaration
  | some directive => s!"@{directive} on {declaration}"

def message : Cause → String
  | syntactic fault => fault.message
  | naming fault => fault.message
  | rejected violation declaration directive =>
    subject declaration directive ++ ": " ++ violation.message

end Cause

/-- An error that ends the work on a file, and where it lies if that is known. -/
structure Diagnostic where
  cause : Cause
  location : Option Location
deriving Repr, DecidableEq

namespace Diagnostic

def category (d : Diagnostic) : Category := d.cause.category

def message (d : Diagnostic) : String := d.cause.message

def text (d : Diagnostic) : String :=
  match d.location with
  | some l => l.text ++ ": " ++ d.message
  | none => d.message

def report (d : Declaration) (directive : Option Directive) (v : Violation) : Diagnostic :=
  ⟨.rejected v d.name (directive.map (·.name)), d.location⟩

end Diagnostic

end DomainModel
