/-!
# The source of the contracts

The two files that make up the package of contracts, which generated modules are loaded with.
-/

namespace DomainModel.Contract

def packageLines : List String :=
  ["\"\"\"Runtime contracts for generated domain model code.\"\"\"",
   "",
   "from .contracts import (",
   "    AggregateRoot,",
   "    Command,",
   "    DomainEvent,",
   "    DomainEvents,",
   "    Entity,",
   "    Message,",
   "    Query,",
   "    ValueObject,",
   "    ValueValidationError,",
   ")",
   "",
   "__all__ = [",
   "    \"AggregateRoot\",",
   "    \"Command\",",
   "    \"DomainEvent\",",
   "    \"DomainEvents\",",
   "    \"Entity\",",
   "    \"Message\",",
   "    \"Query\",",
   "    \"ValueObject\",",
   "    \"ValueValidationError\",",
   "]"]

def contractsLines : List String :=
  ["\"\"\"Contracts implemented by generated domain model classes.",
   "",
   "Generated modules subclass these and fill in the abstract accessors.",
   "Repositories, event stores and handlers are expected to depend on these",
   "classes rather than on generated types.",
   "\"\"\"",
   "",
   "from abc import ABC, abstractmethod",
   "from typing import Any, ClassVar, Generic, Self, TypeVar",
   "from uuid import UUID",
   "",
   "T = TypeVar(\"T\")",
   "",
   "",
   "class Message(ABC):",
   "    \"\"\"Marker shared by commands and events.\"\"\"",
   "",
   "    __slots__ = ()",
   "",
   "",
   "class Entity(ABC):",
   "    \"\"\"An object with a globally unique, persistent identity.",
   "",
   "    Two entities are equal when their ids are equal, whatever their other",
   "    state. ``version`` is incremented for every mutation so events raised",
   "    by the entity can be replayed in order.",
   "    \"\"\"",
   "",
   "    __slots__ = ()",
   "",
   "    @property",
   "    @abstractmethod",
   "    def id(self) -> UUID:",
   "        \"\"\"Globally unique id of the entity.\"\"\"",
   "",
   "    @property",
   "    @abstractmethod",
   "    def version(self) -> int:",
   "        \"\"\"Number of mutations applied to the entity.\"\"\"",
   "",
   "    def next_version(self) -> int:",
   "        \"\"\"Return the version the entity has after its next mutation.\"\"\"",
   "        return self.version + 1",
   "",
   "",
   "class AggregateRoot(Entity):",
   "    \"\"\"An entity that owns a consistency boundary and raises events.",
   "",
   "    ``events`` names the sum of events the aggregate publishes. Generated",
   "    code assigns it once every class in the module exists.",
   "    \"\"\"",
   "",
   "    __slots__ = ()",
   "",
   "    events: ClassVar[type[\"DomainEvents\"] | None] = None",
   "",
   "",
   "class ValueValidationError(ValueError):",
   "    \"\"\"Raised when a value object rejects the value it is built from.\"\"\"",
   "",
   "    def __init__(self, value: Any) -> None:",
   "        super().__init__(f\"\x7bvalue!r\x7d rejected by \x7btype(self).__name__\x7d\")",
   "        self.value = value",
   "",
   "",
   "class ValueObject(ABC, Generic[T]):",
   "    \"\"\"An immutable holder of a validated value.",
   "",
   "    Generated subclasses implement construction, equality and display.",
   "    ``validate`` is written by hand, usually in a subclass of the",
   "    generated class:",
   "",
   "        class Email(generated.Email):",
   "            @classmethod",
   "            def validate(cls, value: str) -> bool:",
   "                return \"@\" in value",
   "    \"\"\"",
   "",
   "    __slots__ = ()",
   "",
   "    _value: T",
   "",
   "    @property",
   "    def value(self) -> T:",
   "        \"\"\"The wrapped value.\"\"\"",
   "        return self._value",
   "",
   "    @classmethod",
   "    @abstractmethod",
   "    def validate(cls, value: T) -> bool:",
   "        \"\"\"Return True when ``value`` may be wrapped.\"\"\"",
   "        raise NotImplementedError(\"validate() must be supplied by the value object\")",
   "",
   "    @classmethod",
   "    @abstractmethod",
   "    def try_from(cls, value: T) -> Self:",
   "        \"\"\"Validate ``value`` and wrap it, raising ValueValidationError if rejected.\"\"\"",
   "",
   "",
   "class DomainEvent(Message):",
   "    \"\"\"A fact with domain significance that has already happened.\"\"\"",
   "",
   "    __slots__ = ()",
   "",
   "    @property",
   "    @abstractmethod",
   "    def occurred(self) -> int:",
   "        \"\"\"Time the event occurred, in seconds since the epoch.\"\"\"",
   "",
   "    @property",
   "    @abstractmethod",
   "    def id(self) -> UUID:",
   "        \"\"\"Unique id of the event.\"\"\"",
   "",
   "    @property",
   "    @abstractmethod",
   "    def aggregate_id(self) -> UUID:",
   "        \"\"\"Id of the aggregate that raised the event.\"\"\"",
   "",
   "    @property",
   "    @abstractmethod",
   "    def version(self) -> int:",
   "        \"\"\"Version of the aggregate the event corresponds to.\"\"\"",
   "",
   "",
   "class DomainEvents(DomainEvent):",
   "    \"\"\"A sum of domain events, forwarding accessors to its payload.\"\"\"",
   "",
   "    __slots__ = ()",
   "",
   "    variants: ClassVar[tuple[str, ...]] = ()",
   "",
   "    @property",
   "    @abstractmethod",
   "    def payload(self) -> DomainEvent:",
   "        \"\"\"The wrapped event.\"\"\"",
   "",
   "",
   "class Command(Message):",
   "    \"\"\"Marker for requests that change state and may be refused.\"\"\"",
   "",
   "    __slots__ = ()",
   "",
   "",
   "class Query(ABC):",
   "    \"\"\"Marker for parameter objects describing a read.\"\"\"",
   "",
   "    __slots__ = ()"]

def fileText (lines : List String) : String := String.join (lines.map (· ++ "\n"))

def files : List (String × String) :=
  [("__init__.py", fileText packageLines), ("contracts.py", fileText contractsLines)]

end DomainModel.Contract
