/-!
# Contracts

The classes that generated classes build on. A generated module imports those that it can name.
-/

namespace DomainModel

inductive Contract
  | aggregateRoot
  | command
  | domainEvent
  | domainEvents
  | entity
  | message
  | query
  | valueObject
  | valueValidationError
deriving Repr, DecidableEq

namespace Contract

def text : Contract → String
  | aggregateRoot => "AggregateRoot"
  | command => "Command"
  | domainEvent => "DomainEvent"
  | domainEvents => "DomainEvents"
  | entity => "Entity"
  | message => "Message"
  | query => "Query"
  | valueObject => "ValueObject"
  | valueValidationError => "ValueValidationError"

def all : List Contract :=
  [aggregateRoot, command, domainEvent, domainEvents, entity, message, query, valueObject,
   valueValidationError]

/-- The contracts that a generated module imports: no generated class is a mere message. -/
def imported : List Contract := all.filter (· ≠ message)

end Contract

end DomainModel
