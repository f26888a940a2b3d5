import DomainModel.Live.World

/-!
# Requests

What one part of a module asks of another: to call a value, to read or assign an attribute, to
compare, show, hash or copy a value. Every rule that answers such a request takes as its argument
what answers the requests that it makes itself, so that it can be read, and reasoned about, on its
own.
-/

namespace DomainModel.Live

/-- A run may fail, and keeps what it has done to the world until then. -/
abbrev Run := ExceptT Fault (StateM World)

inductive Request
  | call (f : Value) (arguments : List Value) (named : List (String × Value))
  | read (v : Value) (name : String)
  | assign (v : Value) (name : String) (x : Value)
  | delete (v : Value) (name : String)
  | equal (a b : Value)
  | order (o : Order) (a b : Value)
  | truth (v : Value)
  | repr (v : Value)
  | text (v : Value)
  | hash (v : Value)
  | isInstance (v cls : Value)
  /-- Whether a value is a class that builds on another class. -/
  | isSubclass (v : Value) (c : ClassRef)
  | copy (v : Value)
  /-- A copy of a value together with what it holds; `memo` holds the copies that are made already.
  -/
  | deepCopy (v memo : Value)
deriving Repr, DecidableEq

abbrev Answering := Request → Run Value

namespace Run

def world : Run World := fun w => (.ok w, w)

def change (f : World → World) : Run Unit := fun w => (.ok (), f w)

def fail (kind : FaultKind) : Run α := throw (.raised kind)

def unsuitable : Run α := throw .unsuitable

def noAttribute : Run α := throw .noAttribute

/-- What a run gives, or what it fails with. A run that does not end gives neither. -/
def attempt (r : Run α) : Run (Except Fault α) := fun w =>
  match r w with
  | (.error (.raised .endless), w) => (.error (.raised .endless), w)
  | (x, w) => (.ok x, w)

def allocate (c : Cell) : Run Value := fun w =>
  (.ok (.cell w.cells.length), { w with cells := w.cells ++ [c] })

def copyNumber : Run Nat := fun w => (.ok w.copies, { w with copies := w.copies + 1 })

def integer (n : Int) : Run Value := do
  if Value.isShared n then return .integer n 0 else return .integer n (← copyNumber)

def text (s : String) : Run Value := do
  if Value.isSharedText s then return .text s 0 else return .text s (← copyNumber)

def tuple (items : List Value) : Run Value :=
  if items.isEmpty then return .names [] else allocate (.tuple items)

/-- What was made for a value under a name; it is made when it is first asked for. -/
def keep (v : Value) (name : String) (make : Run Value) : Run Value := do
  match (← world).kept.lookup (v, name) with
  | some x => return x
  | none => do
    let x ← make
    change fun w => { w with kept := ((v, name), x) :: w.kept }
    return x

def global (name : String) : Run Value := do
  match (← world).global? name with
  | some v => return v
  | none => fail .unknownName

/-- What a name of the module stands for in the body of a class, or in a function of it. -/
def globalIn (owner name : String) : Run Value := do
  let w ← world
  if owner ∈ w.cutOff ∧ (w.globals.lookup name).isNone then unsuitable else global name

end Run

namespace Answering

open Run

def call (ask : Answering) (f : Value) (arguments : List Value)
    (named : List (String × Value) := []) : Run Value := ask (.call f arguments named)

def read (ask : Answering) (v : Value) (name : String) : Run Value := ask (.read v name)

def read? (ask : Answering) (v : Value) (name : String) : Run (Option Value) := do
  match ← attempt (ask.read v name) with
  | .ok x => return some x
  | .error (.raised .noAttribute) => return none
  | .error f => throw f

def assign (ask : Answering) (v : Value) (name : String) (x : Value) : Run Unit := do
  let _ ← ask (.assign v name x)

def isTrue (ask : Answering) (v : Value) : Run Bool := do
  match ← ask (.truth v) with
  | .truth b => return b
  | _ => unsuitable

def shown (ask : Answering) (v : Value) : Run String := do
  match (← ask (.repr v)).text? with
  | some s => return s
  | none => unsuitable

def textOf (ask : Answering) (v : Value) : Run String := do
  match (← ask (.text v)).text? with
  | some s => return s
  | none => unsuitable

/-- Raises a built-in exception with a text, by the name that the module knows it by. -/
def raise (ask : Answering) (exception : Value) (message : String) : Run α := do
  let e ← ask.call exception [← text message]
  if (← world).isInstance e (.builtin "BaseException") then throw (.thrown e) else unsuitable

end Answering

end DomainModel.Live
