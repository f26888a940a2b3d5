import DomainModel.Check
import DomainModel.Contract
import DomainModel.Member

/-!
# Fragments

What a role contributes to the class of its declaration: a contract to build on, members, and what
stands before or after the class.
-/

namespace DomainModel

structure ValueError where
  owner : String
  name : String
deriving Repr, DecidableEq

def ValueError.ofOwner (owner : String) : ValueError := ⟨owner, owner ++ "ValidationError"⟩

def ValueError.source (e : ValueError) : String :=
  Member.ofLines ["class " ++ e.name ++ "(ValueValidationError):",
    "    \"\"\"Raised when " ++ e.owner ++ ".validate rejects a value.\"\"\""]

structure Fragment where
  role : Role
  directive : Directive
  owner : String
  base : Contract
  members : List Member := []
  /-- The names of members that the contract or its user supplies. -/
  reserved : List String := []
  error : Option ValueError := none
  /-- The sum of events that is assigned to the class once all classes exist. -/
  events : Option String := none
  payload : Option Contract := none
deriving Repr, DecidableEq

namespace Fragment

def assigned (f : Fragment) : List String :=
  match f.events with
  | some _ => [Role.eventsArgument]
  | none => []

def eventsLine (owner events : String) : String := owner ++ ".events = " ++ events

def epilogue (f : Fragment) : List String := f.events.toList.map (eventsLine f.owner)

def eventAccessors : List (String × String) :=
  [("occurred", "int"), ("id", "UUID"), ("aggregate_id", "UUID"), ("version", "int")]

/-- The accessor of a field of the entity or event contract; a version is given as a whole number.
-/
def contractAccessor (f : Field) : Member :=
  if f.name = "version" then .accessor "version" "int" (.count "version") f.docs
  else .accessor f.name f.type.annotation (.stored f.name) f.docs

/-- The first field of a name, which a condition of the role has asked for. -/
def lookUp (d : Descriptor) (name : String) (requirement : Requirement) : Except Violation Field :=
  match d.field? name with
  | some f => .ok f
  | none => .error (.missingField name requirement)

def ofEntity (a : Applied) : Except Violation Fragment := do
  let d := a.descriptor
  let id ← lookUp d "id" .identifier
  let version ← lookUp d "version" .integer
  let events := a.directive.events?
  let others := d.fields.filter fun f => f.name ≠ "id" ∧ f.name ≠ "version"
  return { role := a.role, directive := a.directive, owner := d.name
           base := if events.isSome then .aggregateRoot else .entity
           members := (others.map contractAccessor).foldl (fun ms m => m.put ms)
             [contractAccessor id, contractAccessor version, .equality d.name "id", .hash "id"]
           events }

def ofValueObject (a : Applied) : Except Violation Fragment :=
  let d := a.descriptor
  let error := ValueError.ofOwner d.name
  match d.fields with
  | [] => .error .notSingleValue
  | value :: _ =>
    .ok { role := a.role, directive := a.directive, owner := d.name
          base := .valueObject
          members :=
            [.display "value", .equality d.name "value", .hash "value", .clone d.name value.name,
             .tryFrom d.name value.name value.type.annotation error.name]
          reserved := ["validate", "value"]
          error := some error }

def ofDomainEvent (a : Applied) : Except Violation Fragment := do
  let d := a.descriptor
  let occurred ← lookUp d "occurred" .timestamp
  let id ← lookUp d "id" .identifier
  let aggregateId ← lookUp d "aggregate_id" .identifier
  let version ← lookUp d "version" .integer
  return { role := a.role, directive := a.directive, owner := d.name
           base := .domainEvent
           members := [occurred, id, aggregateId, version].map contractAccessor }

def ofDomainEvents (a : Applied) : Fragment :=
  let d := a.descriptor
  { role := a.role, directive := a.directive, owner := d.name
    base := .domainEvents
    members := eventAccessors.map fun (name, annotation) =>
      .dispatch d.name (d.variants.map (·.name)) name annotation
    payload := some .domainEvent }

def ofMarker (base : Contract) (a : Applied) : Fragment :=
  { role := a.role, directive := a.directive, owner := a.descriptor.name, base }

end Fragment

/-- The fragment of a role. It is an error only if a field is missing that the role's conditions ask
for. -/
def Applied.fragment (a : Applied) : Except Violation Fragment :=
  match a.role with
  | .entity => Fragment.ofEntity a
  | .valueObject => Fragment.ofValueObject a
  | .domainEvent => Fragment.ofDomainEvent a
  | .domainEvents => .ok (Fragment.ofDomainEvents a)
  | .command => .ok (Fragment.ofMarker .command a)
  | .query => .ok (Fragment.ofMarker .query a)

end DomainModel
