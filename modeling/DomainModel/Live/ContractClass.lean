import DomainModel.Live.StandardClass
import DomainModel.Role

/-!
# Contracts as classes

The classes that are there before a module is loaded, what they bind, and what they leave to the
classes that build on them.
-/

namespace DomainModel.Contract

open Live

def home : String := "domaingen.runtime.contracts"

def parent? : Contract → Option Contract
  | .aggregateRoot => some .entity
  | .command | .domainEvent => some .message
  | .domainEvents => some .domainEvent
  | .entity | .message | .query | .valueObject | .valueValidationError => none

def bases (c : Contract) : List ClassRef :=
  match c.parent? with
  | some p => [.contract p]
  | none =>
    match c with
    | .valueValidationError => [.builtin "ValueError"]
    | .valueObject => [.builtin "ABC", .builtin "Generic"]
    | _ => [.builtin "ABC"]

def linearization (c : Contract) : List ClassRef :=
  match c with
  | .aggregateRoot => [.contract c, .contract .entity, .builtin "ABC", .object]
  | .command | .domainEvent => [.contract c, .contract .message, .builtin "ABC", .object]
  | .domainEvents =>
    [.contract c, .contract .domainEvent, .contract .message, .builtin "ABC", .object]
  | .entity | .message | .query => [.contract c, .builtin "ABC", .object]
  | .valueObject => [.contract c, .builtin "ABC", .builtin "Generic", .object]
  | .valueValidationError => .contract c :: Builtin.ancestors "ValueError"

def doc : Contract → String
  | .message => "Marker shared by commands and events."
  | .entity =>
    "An object with a globally unique, persistent identity.\n\n"
      ++ "    Two entities are equal when their ids are equal, whatever their other\n"
      ++ "    state. ``version`` is incremented for every mutation so events raised\n"
      ++ "    by the entity can be replayed in order.\n    "
  | .aggregateRoot =>
    "An entity that owns a consistency boundary and raises events.\n\n"
      ++ "    ``events`` names the sum of events the aggregate publishes. Generated\n"
      ++ "    code assigns it once every class in the module exists.\n    "
  | .valueValidationError => "Raised when a value object rejects the value it is built from."
  | .valueObject =>
    "An immutable holder of a validated value.\n\n"
      ++ "    Generated subclasses implement construction, equality and display.\n"
      ++ "    ``validate`` is written by hand, usually in a subclass of the\n"
      ++ "    generated class:\n\n"
      ++ "        class Email(generated.Email):\n"
      ++ "            @classmethod\n"
      ++ "            def validate(cls, value: str) -> bool:\n"
      ++ "                return \"@\" in value\n    "
  | .domainEvent => "A fact with domain significance that has already happened."
  | .domainEvents => "A sum of domain events, forwarding accessors to its payload."
  | .command => "Marker for requests that change state and may be refused."
  | .query => "Marker for parameter objects describing a read."

def function (c : Contract) (name : String) (body : Body) (doc : Option String)
    (annotations : List (String × Annotation)) : Function :=
  { owner := c.text, name, body, doc, annotations, home }

def gives (a : Annotation) : String × Annotation := ("return", a)

def demand (c : Contract) (name : String) (result : Annotation) (doc : String) : String × Value :=
  (name, .property (c.function name (.required ["self"]) (some doc) [gives result]) none)

def demandMethod (c : Contract) (name : String) (body : Body) (result : Annotation)
    (doc : String) : String × Value :=
  (name, .classMethod (c.function name body (some doc) [("value", parameter), gives result]))
where
  parameter : Annotation := .described "TypeVar" "~T"

/-- Annotated names and what they are said to be; each annotated contract has a dictionary of its
own. -/
def annotated : List (Contract × String × String) :=
  [(.aggregateRoot, Role.eventsArgument, "typing.ClassVar[type['DomainEvents'] | None]"),
   (.valueObject, "_value", "~T"),
   (.domainEvents, "variants", "typing.ClassVar[tuple[str, ...]]")]

def annotationCells : List Cell :=
  annotated.map fun a => .dict [(.constant a.2.1, .described "_GenericAlias" a.2.2)]

/-- The annotations of a contract, by the place of their dictionary. -/
def annotations (c : Contract) : List (String × Value) :=
  match annotated.findIdx? (·.1 = c) with
  | some i => [("__annotations__", .cell i)]
  | none => []

def ownMembers (c : Contract) : List (String × Value) :=
  let number : Annotation := .cls (.builtin "int")
  let identifier : Annotation := .cls (.builtin "UUID")
  match c with
  | .message | .command | .query => []
  | .entity =>
    [c.demand "id" identifier "Globally unique id of the entity.",
     c.demand "version" number "Number of mutations applied to the entity.",
     ("next_version", .function (c.function "next_version" .nextVersion
       (some "Return the version the entity has after its next mutation.") [gives number]))]
  | .aggregateRoot => [(Role.eventsArgument, .nothing)]
  | .valueValidationError =>
    [("__init__", .function (c.function "__init__" .errorInit none
       [("value", .described "_AnyMeta" "typing.Any"), gives .nothing]))]
  | .valueObject =>
    [("value", .property (c.function "value" (.stored "value") (some "The wrapped value.")
       [gives demandMethod.parameter]) none),
     c.demandMethod "validate" .requiredRule (.cls (.builtin "bool"))
       "Return True when ``value`` may be wrapped.",
     c.demandMethod "try_from" (.required ["cls", "value"])
       (.described "_SpecialForm" "typing.Self")
       "Validate ``value`` and wrap it, raising ValueValidationError if rejected.",
     ("__orig_bases__", .described "tuple" "(<class 'abc.ABC'>, typing.Generic[~T])"),
     ("__parameters__", .described "tuple" "(~T,)")]
  | .domainEvent =>
    [c.demand "occurred" number "Time the event occurred, in seconds since the epoch.",
     c.demand "id" identifier "Unique id of the event.",
     c.demand "aggregate_id" identifier "Id of the aggregate that raised the event.",
     c.demand "version" number "Version of the aggregate the event corresponds to."]
  | .domainEvents =>
    [("variants", .names []),
     c.demand "payload" (.cls (.contract .domainEvent)) "The wrapped event."]

/-- The members that a class of a contract has to supply, in the order of their names. -/
def required : Contract → List String
  | .entity | .aggregateRoot => ["id", "version"]
  | .valueObject => ["try_from", "validate"]
  | .domainEvent => ["aggregate_id", "id", "occurred", "version"]
  | .domainEvents => ["aggregate_id", "id", "occurred", "payload", "version"]
  | .message | .command | .query | .valueValidationError => []

def info (c : Contract) : ClassInfo :=
  let described := [("__module__", Value.constant home), ("__doc__", Value.constant c.doc)]
  let isError : Bool := c = .valueValidationError
  { name := c.text, qualname := c.text
    bases := c.bases
    lead := c.bases.headD .object
    linearization := c.linearization
    isAbstractKind := !isError
    isIncomplete := !c.required.isEmpty
    members := described ++ c.annotations ++ (if isError then [] else [("__slots__", .names [])])
      ++ c.ownMembers
      ++ if isError then [("__weakref__", .native "instance" "__weakref__")] else
        [("__abstractmethods__", .nameSet c.required), (Standard.registryName, Standard.registry)]
    layout := if isError then .builtin "BaseException" else .object
    addsReferences := isError
    holdsAttributes := isError
    holdsReferences := isError }

end DomainModel.Contract
