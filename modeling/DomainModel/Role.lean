import DomainModel.Diagnostic
import DomainModel.Text.Identifier

/-!
# Roles

A directive gives its declaration a role in the domain model. Only the entity takes an argument: the
name of the sum of events that it publishes.
-/

namespace DomainModel

inductive Role
  | entity
  | valueObject
  | domainEvent
  | domainEvents
  | command
  | query
deriving Repr, DecidableEq

namespace Role

def all : List Role := [entity, valueObject, domainEvent, domainEvents, command, query]

def text : Role → String
  | entity => "entity"
  | valueObject => "value_object"
  | domainEvent => "domain_event"
  | domainEvents => "domain_events"
  | command => "command"
  | query => "query"

def ofName? (name : String) : Option Role := all.find? (·.text = name)

theorem mem_all (r : Role) : r ∈ all := by cases r <;> decide

def eventsArgument : String := "events"

def accepted : Role → List String
  | entity => [eventsArgument]
  | valueObject | domainEvent | domainEvents | command | query => []

/-- The identifier that an argument's value is, if it is one. -/
def identifier? : Literal → Option String
  | .text s => if Identifier.isIdentifier s then some s else none
  | .integer _ | .float _ | .truth _ | .absent => none

/-- What is wrong with one argument: it must be named, be read by the role, and name a
declaration. -/
def argumentFault? (r : Role) (a : Argument) : Option Violation :=
  match a.name with
  | none => some .positionalArgument
  | some name =>
    if name ∉ r.accepted then some (.unexpectedArgument name)
    else if (identifier? a.value).isNone then some (.argumentNotName name)
    else none

def argumentsFault? (r : Role) (arguments : List Argument) : Option Violation :=
  arguments.findSome? r.argumentFault?

end Role

/-- The value of the first argument of a name. -/
def Directive.argument? (d : Directive) (name : String) : Option Literal :=
  (d.arguments.find? (·.name = some name)).map (·.value)

def Directive.events? (d : Directive) : Option String :=
  (d.argument? Role.eventsArgument).bind Role.identifier?

end DomainModel
