import DomainModel.Live.Attribute
import DomainModel.Live.Bases

/-!
# Assigning

Assigning an attribute, and taking it away: a property, a stored field, what an instance holds
besides, or what a class binds. What an instance is of and what a class builds on can be assigned
too, as long as the instances stay laid out as they are.
-/

namespace DomainModel.Live

open Run

namespace Assigning

/-! ## Classes of instances -/

def setClass (v x : Value) : Run Unit := do
  let w ← world
  match v, w.cell? v, x with
  | .cell a, some (.object old slots attributes), .cls c =>
    if !w.isFixed c && !w.isFixed old && Bases.areAlike w old c then
      let slots := Bases.moveSlots (Bases.foundationOf w old) (Bases.foundationOf w c) slots
      change (·.update a (.object c slots attributes))
    else unsuitable
  | .cls c, _, .cls kind =>
    if kind = w.kindOf c ∧ kind = .builtin "ABCMeta" then return () else unsuitable
  | _, _, _ => unsuitable

/-! ## Instances -/

/-- Assigns an attribute that an instance holds itself, if it can. -/
def assignOwn (v : Value) (name : String) (x : Value) : Run Unit := do
  let w ← world
  if (w.info (w.classOf v)).holdsAttributes then
    BuiltinData.changeAttributes v (World.putEntry (.constant name) x)
  else noAttribute

/-- Assigns an attribute of an instance: a property, a stored field, or an attribute that the
instance itself may hold. -/
def assignInstance (ask : Answering) (v : Value) (name : String) (x : Value) : Run Unit := do
  let w ← world
  let c := w.classOf v
  match w.bound? c name with
  | some (.property _ setter) =>
    match setter with
    | some f => do let _ ← ask.call (.function f) [v, x]
    | none => noAttribute
  | some (.slot owner slot) => change (·.setSlot v (owner, slot) x)
  | some (.native owner n) =>
    if owner = "object" ∧ n = "__class__" then setClass v x
    else if Builtin.isData owner n then BuiltinData.put v owner n x
    else assignOwn v name x
  | some d =>
    if Attribute.isData w d then
      match ← Attribute.special? ask d "__set__" with
      | some m => do let _ ← ask.call m [v, x]
      | none => noAttribute
    else assignOwn v name x
  | none => assignOwn v name x

/-- Assigns an attribute of an instance whose class may have an own way of doing so. -/
def assign (ask : Answering) (v : Value) (name : String) (x : Value) : Run Unit := do
  let w ← world
  match w.bound? (w.classOf v) "__setattr__" with
  | some (.native _ _) | none => assignInstance ask v name x
  | some d => do
    let _ ← ask.call (← Attribute.bind ask v (w.classOf v) d) [.constant name, x]

def deleteOwn (v : Value) (name : String) : Run Unit := do
  let w ← world
  if (World.keyed? (w.attributes v) (.constant name)).isSome then
    BuiltinData.changeAttributes v (World.dropEntry (.constant name))
  else noAttribute

def deleteInstance (ask : Answering) (v : Value) (name : String) : Run Unit := do
  let w ← world
  match w.bound? (w.classOf v) name with
  | some (.property _ _) => noAttribute
  | some (.slot owner slot) =>
    if (w.slot? v (owner, slot)).isSome then change (·.clearSlot v (owner, slot)) else noAttribute
  | some (.native owner n) =>
    if Builtin.isData owner n then BuiltinData.clear v owner n else deleteOwn v name
  | some d =>
    if Attribute.isData w d then
      match ← Attribute.special? ask d "__delete__" with
      | some m => do let _ ← ask.call m [v]
      | none => noAttribute
    else deleteOwn v name
  | none => deleteOwn v name

/-- Takes an attribute away from an instance whose class may have an own way of doing so. -/
def delete (ask : Answering) (v : Value) (name : String) : Run Unit := do
  let w ← world
  match w.bound? (w.classOf v) "__delattr__" with
  | some (.native _ _) | none => deleteInstance ask v name
  | some d => do
    let _ ← ask.call (← Attribute.bind ask v (w.classOf v) d) [.constant name]

/-! ## Bases of classes -/

/-- Orders the classes behind a class anew, and those behind the classes that build on it. There may
be no order. -/
def reorder : (fuel : Nat) → ClassRef → World → Option World
  | 0, _, w => some w
  | fuel + 1, c, w => do
    let line ← Bases.linearize? w (w.info c).bases
    let w := w.adjust c fun i =>
      { i with linearization := c :: line
               layout := if i.places.isEmpty then (w.info i.lead).layout else c }
    let w := { w with kept := w.kept.filter fun e => e.1 ≠ (Value.cls c, "__mro__") }
    (w.subclasses c).foldlM (fun w sub => reorder fuel sub w) w

/-- The stored fields of the instances of a class, and of those that build on it, in the places that
another class has for them. -/
def moveInstances (c source target : ClassRef) (w : World) : World :=
  { w with cells := w.cells.map fun
      | .object k slots attributes =>
        if w.isSubclass k c then .object k (Bases.moveSlots source target slots) attributes
        else .object k slots attributes
      | cell => cell }

def base (w : World) (c : ClassRef) : Value → Run ClassRef
  | .cls b =>
    if w.isSubclass b c ∨ Builtin.closed.any (fun n => b = .builtin n) then unsuitable else return b
  | _ => unsuitable

def setBases (c : ClassRef) (x : Value) : Run Unit := do
  let w ← world
  match w.tuple? x with
  | none => unsuitable
  | some items => do
    let bases ← items.mapM (base w c)
    let old := (w.info c).lead
    match Bases.lead? w bases with
    | none => unsuitable
    | some lead =>
      if Bases.areAlike w old lead then
        let moved := w.adjust c ({ · with bases, lead })
        match reorder w.classes.length c moved with
        | none => unsuitable
        | some w' =>
          let (source, target) := (Bases.foundationOf w old, Bases.foundationOf w lead)
          let w' := if source = target then w' else moveInstances c source target w'
          change fun _ => { w' with kept := ((.cls c, "__bases__"), x) :: w'.kept }
      else unsuitable

/-! ## Classes -/

def readOnly : List String :=
  ["__mro__", "__dict__", "__text_signature__", "__basicsize__", "__itemsize__", "__flags__",
   "__weakrefoffset__", "__base__", "__dictoffset__"]

def rename (c : ClassRef) (key : String) (x : Value) (f : String → ClassInfo → ClassInfo) :
    Run Unit :=
  match x.text? with
  | some s => change fun w => { w.adjust c (f s) with kept := ((.cls c, key), x) :: w.kept }
  | none => unsuitable

def assignClass (ask : Answering) (c : ClassRef) (name : String) (x : Value) : Run Unit := do
  if (← world).isFixed c then unsuitable
  else if name ∈ readOnly then noAttribute
  else if name = "__class__" then setClass (.cls c) x
  else if name = "__bases__" then setBases c x
  else if name = "__name__" then
    if (x.text?).any ('\x00' ∈ ·.toList) then fail .badValue
    else rename c name x fun s i => { i with name := s }
  else if name = "__qualname__" then rename c name x fun s i => { i with qualname := s }
  else if name = "__abstractmethods__" then
    let isIncomplete ← ask.isTrue x
    change (·.adjust c fun i => { i.bind name x with isIncomplete })
  else change (·.adjust c (·.bind name x))

/-- Takes away what a class binds to a name. Some of what every class keeps cannot be taken away. -/
def deleteClass (c : ClassRef) (name : String) : Run Unit := do
  let w ← world
  if w.isFixed c ∨ name ∈ ["__class__", "__bases__", "__name__", "__qualname__", "__module__",
      "__doc__"] then unsuitable
  else if name ∈ readOnly ∨ (w.member? c name).isNone then noAttribute
  else if name = "__abstractmethods__" then
    change (·.adjust c fun i => { i.unbind name with isIncomplete := false })
  else change (·.adjust c (·.unbind name))

end Assigning

end DomainModel.Live
