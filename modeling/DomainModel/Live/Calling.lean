import DomainModel.Live.BuiltinCall
import DomainModel.Live.Execution

/-!
# Calling

What happens when a value is called: a function runs, a class makes an instance, and an instance
does what its class says.
-/

namespace DomainModel.Live

open Run

namespace Calling

/-! ## Built-in classes -/

/-- The whole number that a text denotes, in characters or in bytes. -/
def ofText (s : String) : Run Value :=
  match WholeNumber.decimal? s with
  | some n => integer n
  | none => fail .badValue

def toInteger (ask : Answering) (v : Value) : Run Value := do
  match v, (← world).bytes? v with
  | .integer _ _, _ => return v
  | .truth b, _ => return .integer (if b then 1 else 0) 0
  | .text s _, _ => ofText s
  | _, some bs => ofText (String.ofList (bs.map fun b => if b < 128 then Char.ofNat b else '?'))
  | _, none =>
    match ← Attribute.bySpecial? ask v "__int__" with
    | some (.integer n k) => return .integer n k
    | some (.truth b) => return .integer (if b then 1 else 0) 0
    | some _ => unsuitable
    | none =>
      match ← Attribute.bySpecial? ask v "__index__" with
      | some (.integer n k) => return .integer n k
      | _ => unsuitable

def isCallable (w : World) (v : Value) : Bool :=
  match v, w.cell? v with
  | .cls _, _ | .function _, _ => true
  | .native _ _, _ => w.isFixed (w.classOf v) && (w.bound? (w.classOf v) "__call__").isSome
  | _, some (.method _ _) => true
  | _, some (.object c _ _) => (w.bound? c "__call__").isSome
  | _, _ => false

/-! ## Instances -/

/-- A new instance of a class, before it is initialised. -/
def create (ask : Answering) (c : ClassRef) (given : List Value) (named : List (String × Value)) :
    Run Value := do
  let w ← world
  match w.bound? c "__new__" with
  | some (.native owner _) => BuiltinCall.make owner (.cls c) given named
  | none => BuiltinCall.make "object" (.cls c) given named
  | some _ => ask.call (← Attribute.ofClass ask c "__new__") (.cls c :: given) named

/-- Calls the initialisation of an instance, which gives nothing. -/
def initialise (ask : Answering) (v : Value) (c : ClassRef) (given : List Value)
    (named : List (String × Value)) : Run Unit := do
  let w ← world
  match w.bound? c "__init__" with
  | some (.native "BaseException" _) => if named.isEmpty then return () else unsuitable
  | some (.native _ _) | none => return ()
  | some _ =>
    match ← Attribute.special? ask v "__init__" with
    | some m =>
      if (← ask.call m given named) = .nothing then return () else unsuitable
    | none => return ()

def construct (ask : Answering) (c : ClassRef) (given : List Value)
    (named : List (String × Value)) : Run Value := do
  let v ← create ask c given named
  let w ← world
  if w.isInstance v c then initialise ask v (w.classOf v) given named
  return v

/-- Calls a class. Some built-in ones give the class, the number or the text of a value. -/
def callClass (ask : Answering) (c : ClassRef) (given : List Value)
    (named : List (String × Value)) : Run Value := do
  let w ← world
  match c, given, named with
  | .builtin "type", [x], [] => return .cls (w.classOf x)
  | .builtin "int", [], [] => return .integer 0 0
  | .builtin "int", [x], [] => toInteger ask x
  | .builtin "str", [], [] => return .constant ""
  | .builtin "str", [x], [] => ask (.text x)
  | .builtin "bool", [], [] => return .truth false
  | .builtin "bool", [x], [] => ask (.truth x)
  | .builtin "list", [], [] => allocate (.list [])
  | .builtin "list", [x], [] =>
    match w.sequence? x with
    | some items => allocate (.list items)
    | none => unsuitable
  | .builtin "tuple", [], [] => return .names []
  | .builtin "tuple", [x], [] =>
    match w.tuple? x, w.sequence? x with
    | some _, _ => return x
    | none, some items => tuple items
    | none, none => unsuitable
  | .builtin "dict", [], _ => BuiltinData.ofEntries named
  | .builtin "dict", [x], [] =>
    match w.entries? x with
    | some entries => allocate (.dict entries)
    | none => unsuitable
  | .builtin "NoneType", [], [] => return .nothing
  | .builtin "NotImplementedType", [], [] => return .undecided
  | .builtin "method", [f, x], [] =>
    if isCallable w f ∧ x ≠ .nothing then allocate (.method x f) else unsuitable
  | .builtin name, _, _ =>
    if name = "object" ∨ !w.isFixed c ∨ Builtin.isException name then construct ask c given named
    else unsuitable
  | .contract _, _, _ | .made _, _, _ => construct ask c given named

/-! ## All values -/

def call (ask : Answering) (f : Value) (given : List Value) (named : List (String × Value)) :
    Run Value := do
  match f, (← world).cell? f with
  | .function g, _ =>
    match g.arguments? given named with
    | some arguments => g.run ask arguments
    | none => unsuitable
  | .cls c, _ => callClass ask c given named
  | .native owner name, _ => BuiltinCall.call ask owner name given named
  | _, some (.method self g) => ask.call g (self :: given) named
  | _, some (.object c _ _) =>
    if Attribute.hasOwn (← world) c "__call__" then
      match ← Attribute.special? ask f "__call__" with
      | some m => ask.call m given named
      | none => unsuitable
    else unsuitable
  | _, _ => unsuitable

end Calling

end DomainModel.Live
