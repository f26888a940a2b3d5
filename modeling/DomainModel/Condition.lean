import DomainModel.Descriptor
import DomainModel.Role

/-!
# Conditions of a role

Each role has a list of conditions on the shape of its declaration. They are checked in order, and
the first that is not met is reported.
-/

namespace DomainModel

/-- Whether a class of types is what is asked for; a timestamp is an integer too. -/
def Requirement.admits : Requirement → TypeClass → Bool
  | identifier, c => c = .identifier
  | timestamp, c => c = .timestamp
  | integer, c => c.isInteger

inductive Condition
  | isRecord
  | isSum
  | hasField (name : String) (requirement : Requirement)
  | noExposedField
  | singleValue
deriving Repr, DecidableEq

namespace Condition

def valueField : String := "value"

def fault? (c : Condition) (d : Descriptor) : Option Violation :=
  match c with
  | isRecord => if d.isRecord then none else some .notRecord
  | isSum => if d.isRecord then some .notSum else none
  | hasField name requirement =>
    match d.field? name with
    | some f =>
      if requirement.admits f.typeClass then none else some (.missingField name requirement)
    | none => some (.missingField name requirement)
  | noExposedField => (d.fields.find? Field.isExposed).map fun f => .exposedField f.name
  | singleValue =>
    match d.fields with
    | [f] => if f.name = valueField then none else some .notSingleValue
    | _ => some .notSingleValue

end Condition

namespace Role

open Condition

def conditions : Role → List Condition
  | entity => [isRecord, hasField "id" .identifier, hasField "version" .integer, noExposedField]
  | valueObject => [isRecord, singleValue]
  | domainEvent =>
    [isRecord, hasField "id" .identifier, hasField "aggregate_id" .identifier,
     hasField "occurred" .timestamp, hasField "version" .integer]
  | domainEvents => [isSum]
  | command | query => []

/-- What is wrong with the first condition that a descriptor does not meet. -/
def fault? (r : Role) (d : Descriptor) : Option Violation := r.conditions.findSome? (·.fault? d)

end Role

end DomainModel
