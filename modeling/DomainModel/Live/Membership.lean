import DomainModel.Live.Comparison

/-!
# Membership

Which classes a value is an instance of, and which classes a class builds on. An abstract class may
decide that itself, counts what its subclasses count, and can be told to count other classes.
-/

namespace DomainModel.Live

open Run

namespace Membership

/-- An abstract class tells its instances only as long as it has its record. -/
def checkRegistry (w : World) (c : ClassRef) : Run Unit :=
  if w.bound? c Standard.registryName = some Standard.registry then return () else unsuitable

def registered (w : World) (c : ClassRef) : List ClassRef :=
  (w.registered.filter (·.1 = c)).map (·.2)

def isSubclassOfAny (ask : Answering) (v : Value) (classes : List ClassRef) : Run Bool :=
  classes.foldlM (fun found c => do
    if found then return true else ask.isTrue (← ask (.isSubclass v c))) false

/-- Whether a class builds on an abstract class, or is counted as if it did. -/
def isAbstractSubclass (ask : Answering) (v : Value) (c : ClassRef) : Run Bool := do
  checkRegistry (← world) c
  match v with
  | .cls sub =>
    let w ← world
    let answer ←
      if Attribute.hasOwn w c "__subclasshook__" then
        ask.call (← Attribute.ofClass ask c "__subclasshook__") [v]
      else pure .undecided
    match answer with
    | .truth b => return b
    | .undecided => do
      let w ← world
      if w.isSubclass sub c then return true
      else isSubclassOfAny ask v (registered w c ++ w.subclasses c)
    | _ => fail .broken
  | _ => unsuitable

def isSubclass (ask : Answering) (v : Value) (c : ClassRef) : Run Bool := do
  let w ← world
  if (w.info c).isAbstractKind then isAbstractSubclass ask v c
  else
    match v with
    | .cls sub => return w.isSubclass sub c
    | _ => unsuitable

/-- Whether a value is an instance of an abstract class, by the class that it claims to be of, or by
the one that it was made by. -/
def isAbstractInstance (ask : Answering) (v : Value) (c : ClassRef) : Run Bool := do
  let w ← world
  checkRegistry w c
  let own := w.classOf v
  let claimed ← ask.read v "__class__"
  if ← ask.isTrue (← ask (.isSubclass claimed c)) then return true
  else if claimed = .cls own then return false
  else ask.isTrue (← ask (.isSubclass (.cls own) c))

/-- Whether a value is an instance of a plain class, by the class that it was made by or by the one
that it claims to be of. -/
def isPlainInstance (ask : Answering) (v : Value) (c : ClassRef) : Run Bool := do
  let w ← world
  if w.isInstance v c then return true
  else
    match ← ask.read? v "__class__" with
    | some (.cls claimed) => return w.isSubclass claimed c
    | some _ | none => return false

/-- Whether a value is an instance of a class, or of one of several. -/
def isInstance (ask : Answering) (v cls : Value) : Run Bool := do
  let w ← world
  let ofAny (classes : List Value) : Run Bool :=
    classes.foldlM (fun found c => do
      if found then return true else ask.isTrue (← ask (.isInstance v c))) false
  match cls, w.cell? cls with
  | .cls c, _ =>
    if w.classOf v = c then return true
    else if (w.info c).isAbstractKind then isAbstractInstance ask v c
    else isPlainInstance ask v c
  | _, some (.union alternatives) => ofAny alternatives
  | _, some (.tuple items) => ofAny items
  | .names [], _ => return false
  | _, _ => unsuitable

/-- Makes an abstract class count another class as its own. Neither may be the other's already. -/
def register (ask : Answering) (c : ClassRef) (v : Value) : Run Value := do
  match v with
  | .cls sub =>
    if ← ask.isTrue (← ask (.isSubclass v c)) then return v
    else if ← ask.isTrue (← ask (.isSubclass (.cls c) sub)) then fail .circular
    else do
      checkRegistry (← world) c
      change fun w => { w with registered := w.registered ++ [(c, sub)] }
      return v
  | _ => unsuitable

end Membership

end DomainModel.Live
