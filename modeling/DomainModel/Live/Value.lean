import DomainModel.Contract

/-!
# Values

The values that a loaded module works with. Lists, dictionaries, instances and bound methods live in
cells of their own, so that two values can be equal and yet not the same one; a number or a text
carries the number of its copy for the same reason. Two values are the same one if and only if they
are equal as terms of `Value`.
-/

namespace DomainModel.Live

inductive ClassRef
  | builtin (name : String)
  | contract (c : Contract)
  /-- A class that a statement of the module or a step of the session made, by its number. -/
  | made (index : Nat)
deriving Repr, DecidableEq

def ClassRef.object : ClassRef := .builtin "object"

inductive Rule
  | contains (s : String)
  | max (n : Int)
  | always (b : Bool)
deriving Repr, DecidableEq

inductive Annotation
  | text (s : String)
  | nothing
  | cls (c : ClassRef)
  | described (cls shown : String)
deriving Repr, DecidableEq

inductive Order
  | less | lessEqual | greater | greaterEqual
deriving Repr, DecidableEq

inductive IdentifierTask
  | initialise
  | getState
  | setState
  | equality
  | compare (order : Order)
  | hash
  | number
  | repr
  | text
  | assign
  | part (name : String)
deriving Repr, DecidableEq

inductive StandardTask
  /-- Makes an abstract class count another one as its own. -/
  | register
  | instanceCheck
  | subclassCheck
  | parameterize
  /-- Notes the parameters that a class behind a generic one has. -/
  | noteParameters
  | copy
  | deepCopy
  | optionalRelease
  | mandatoryRelease
deriving Repr, DecidableEq

inductive Body
  | recordInit (fields : List String)
  | recordRepr (owner : String) (fields : List String)
  | stored (field : String)
  /-- Gives the whole number that a stored field denotes. -/
  | count (field : String)
  | store (field : String)
  /-- Stores the payload of a variant; the sum itself is not constructed. -/
  | sumInit (owner : String) (payload : Option Contract)
  | variantInit (own : ClassRef)
  | sumRepr
  | payloadEquality
  | payloadHash
  | fieldEquality (owner field : String)
  | fieldHash (field : String)
  | fieldText (field : String)
  | clone (field : String)
  | tryFrom (field error : String)
  | dispatch (owner : String) (variants : List String) (name : String)
  /-- A member that a derived class has to supply; without one there is nothing to give. -/
  | required (parameters : List String)
  | requiredRule
  | nextVersion
  | errorInit
  | rule (r : Rule)
  | identifier (task : IdentifierTask)
  | standard (task : StandardTask)
deriving Repr, DecidableEq

structure Function where
  owner : String
  name : String
  body : Body
  doc : Option String := none
  annotations : List (String × Annotation) := []
  home : String := "generated"
deriving Repr, DecidableEq

inductive Value
  | nothing
  /-- What an operation gives that leaves the result to its other operand. -/
  | undecided
  | truth (b : Bool)
  | integer (n : Int) (copy : Nat)
  | text (s : String) (copy : Nat)
  | names (ns : List String)
  | nameSet (ns : List String)
  | cls (c : ClassRef)
  | function (f : Function)
  | property (getter : Function) (setter : Option Function)
  | classMethod (f : Function)
  /-- The place of a stored field in the instances of a class. -/
  | slot (owner : ClassRef) (name : String)
  /-- What a built-in class binds to a name; a built-in function has no class. -/
  | native (owner name : String)
  /-- A value of which nothing but its class and its text matters. -/
  | described (cls shown : String)
  | cell (address : Nat)
deriving Repr, DecidableEq

/-- What a value is hashed by. Different keys are taken to have different hashes. -/
inductive HashKey
  | number (n : Int)
  | bytes (bs : List Nat)
  | identity (v : Value)
  | empty
  | pair (first rest : HashKey)
deriving Repr, DecidableEq

inductive Cell
  | list (items : List Value)
  | tuple (items : List Value)
  | dict (entries : List (Value × Value))
  | bytes (bs : List Nat)
  /-- An instance of a class: its stored fields, each with the class that has the place for it, and
  the address of the dictionary of the attributes that it holds besides, once it has some. -/
  | object (cls : ClassRef) (slots : List ((ClassRef × String) × Value)) (attributes : Option Nat)
  /-- A function or a built-in one together with its first argument. -/
  | method (self function : Value)
  | union (alternatives : List Value)
  | hash (key : HashKey)
deriving Repr, DecidableEq

/-- The place of something that an instance of a built-in exception holds. -/
def exceptionSlot (name : String) : ClassRef × String := (.builtin "BaseException", name)

def identifierSlot (name : String) : ClassRef × String := (.builtin "UUID", name)

namespace Value

/-- The numbers of which there is only one copy. -/
def isShared (n : Int) : Bool := -5 ≤ n && n ≤ 256

def isSharedText (s : String) : Bool :=
  match s.toList with
  | [] => true
  | [c] => c.toNat < 0x100
  | _ => false

def constant (s : String) : Value := .text s 0

def constant? : Option String → Value
  | some s => constant s
  | none => .nothing

def text? : Value → Option String
  | text s _ => some s
  | _ => none

def identical (a b : Value) : Bool := a = b

def number? : Value → Option Int
  | .integer n _ => some n
  | .truth b => some (if b then 1 else 0)
  | _ => none

end Value

/-! ## Faults -/

inductive FaultKind
  | unsuitable
  | noAttribute
  | badValue
  | unknownName
  | unbound
  | unreadable
  | endless
  /-- A key that a dictionary does not have. -/
  | missingKey
  | badIndex
  /-- What a built-in function takes for granted is not so. -/
  | broken
  | circular
  | tooLarge
  | divisionByZero
deriving Repr, DecidableEq

def FaultKind.text : FaultKind → String
  | unsuitable => "TypeError"
  | noAttribute => "AttributeError"
  | badValue => "ValueError"
  | unknownName => "NameError"
  | unbound => "KeyError"
  | unreadable => "SyntaxError"
  | endless => "RecursionError"
  | missingKey => "KeyError"
  | badIndex => "IndexError"
  | broken => "AssertionError"
  | circular => "RuntimeError"
  | tooLarge => "OverflowError"
  | divisionByZero => "ZeroDivisionError"

inductive Fault
  | raised (kind : FaultKind)
  /-- An exception that the module or a contract raises itself. -/
  | thrown (exception : Value)
deriving Repr, DecidableEq

def Fault.unsuitable : Fault := .raised .unsuitable

def Fault.noAttribute : Fault := .raised .noAttribute

def Fault.badValue : Fault := .raised .badValue

/-! ## Texts that the module and the contracts raise -/

def noVariantText (sum : String) : String := sum ++ " must be constructed through one of its variants"

def emptySumText (sum : String) : String := sum ++ " has no variants"

def wrongPayloadText (cls contract given : String) : String :=
  cls ++ " payload must be a " ++ contract ++ ", got " ++ given

def rejectionText (error shown : String) : String := shown ++ " rejected by " ++ error

def noRuleText : String := "validate() must be supplied by the value object"

end DomainModel.Live
