import DomainModel.Live.BuiltinData

/-!
# Attributes

An attribute of an instance is looked up in its class. A property or the place of a stored field
comes before the attributes that the instance holds, and a method after them. An attribute of a
class is looked up in the class itself, but for what every class keeps.
-/

namespace DomainModel.Live

open Run

namespace Attribute

/-! ## Binding -/

def ofKind? (w : World) (v : Value) (name : String) : Option Value :=
  match w.cell? v with
  | some (.object c _ _) => w.bound? c name
  | _ => none

/-- Whether what a class binds comes before what its instances hold. An instance does if its own
class says how to assign it. -/
def isData (w : World) (d : Value) : Bool :=
  match d with
  | .property _ _ | .slot _ _ => true
  | .native owner name => Builtin.isData owner name
  | .cell _ => (ofKind? w d "__set__").isSome || (ofKind? w d "__delete__").isSome
  | _ => false

/-- What an instance as a member of a class gives, if its own class says how to get it. -/
def ofMember (ask : Answering) (d v : Value) (c : ClassRef) : Run Value := do
  match ofKind? (← world) d "__get__" with
  | some getter => ask.call getter [d, v, .cls c]
  | none => return d

def bind (ask : Answering) (v : Value) (c : ClassRef) (d : Value) : Run Value := do
  match d with
  | .function _ => allocate (.method v d)
  | .property getter _ => ask.call (.function getter) [v]
  | .classMethod f => allocate (.method (.cls c) (.function f))
  | .slot owner name =>
    match (← world).slot? v (owner, name) with
    | some x => return x
    | none => noAttribute
  | .native owner name =>
    match Builtin.memberKind? owner name with
    | some .data => BuiltinData.get ask v owner name
    | some .operator | some .method => allocate (.method v d)
    | some .ofClass => allocate (.method (.cls c) d)
    | some .free | none => return d
  | .cell _ => ofMember ask d v c
  | _ => return d

def bindToClass (ask : Answering) (c : ClassRef) (d : Value) : Run Value :=
  match d with
  | .classMethod f => allocate (.method (.cls c) (.function f))
  | .native owner name =>
    if Builtin.memberKind? owner name = some .ofClass then allocate (.method (.cls c) d)
    else return d
  | .cell _ => ofMember ask d .nothing c
  | _ => return d

/-- The method of a class under a special name, bound to an instance of it; `none` if the class has
none. -/
def special? (ask : Answering) (v : Value) (name : String) : Run (Option Value) := do
  let w ← world
  match w.bound? (w.classOf v) name with
  | some d => return some (← bind ask v (w.classOf v) d)
  | none => return none

/-- Whether a class has a special method of its own, and not only a built-in one. -/
def hasOwn (w : World) (c : ClassRef) (name : String) : Bool :=
  match w.bound? c name with
  | some (.native _ _) | none => false
  | some _ => true

/-- What a special method gives, if a class has the method itself. -/
def bySpecial? (ask : Answering) (v : Value) (name : String) (given : List Value := []) :
    Run (Option Value) := do
  let w ← world
  if hasOwn w (w.classOf v) name then
    match ← special? ask v name with
    | some m => return some (← ask.call m given)
    | none => return none
  else return none

/-! ## Instances -/

/-- An attribute of a value that neither its class nor itself has: a method has those of its
function. -/
def ofNone (ask : Answering) (v : Value) (name : String) : Run Value := do
  let w ← world
  match w.cell? v with
  | some (.method _ f) =>
    if w.classOf v = .builtin "method" then ask.read f name else noAttribute
  | _ => noAttribute

/-- An attribute of an instance, by the order in which its class and the instance are asked. -/
def ofInstance (ask : Answering) (v : Value) (name : String) : Run Value := do
  let w ← world
  let c := w.classOf v
  match w.bound? c name, w.attribute? v name with
  | some d, some x => if isData w d then bind ask v c d else return x
  | some d, none => bind ask v c d
  | none, some x => return x
  | none, none => ofNone ask v name

/-- An attribute of an instance whose class may have an own way of reading attributes, and another
one for those that there are not. -/
def read (ask : Answering) (v : Value) (name : String) : Run Value := do
  let w ← world
  let c := w.classOf v
  let first : Run Value :=
    if hasOwn w c "__getattribute__" then do
      match ← special? ask v "__getattribute__" with
      | some m => ask.call m [.constant name]
      | none => noAttribute
    else ofInstance ask v name
  match ← attempt first with
  | .ok x => return x
  | .error (.raised .noAttribute) =>
    match ← special? ask v "__getattr__" with
    | some m => ask.call m [.constant name]
    | none => noAttribute
  | .error f => throw f

/-! ## Classes -/

/-- What every class keeps comes first, then what the class binds, and last what the class of
classes binds. -/
def ofClass (ask : Answering) (c : ClassRef) (name : String) : Run Value := do
  let w ← world
  let kind := w.kindOf c
  let kindly := w.bound? kind name
  if kindly.any (isData w) then
    let x ← BuiltinData.ofClass w c name
    if name = "__doc__" ∨ name = "__annotations__" then bindToClass ask c x else return x
  else
    match w.bound? c name, kindly with
    | some d, _ => bindToClass ask c d
    | none, some d => bind ask (.cls c) kind d
    | none, none => noAttribute

end Attribute

end DomainModel.Live
