import DomainModel.Live.Membership
import DomainModel.Live.Display

/-!
# Standard functions

What the functions of the standard classes do, but for identifiers: abstract classes count other
classes as their own, generic classes are given parameters, and copies are made.
-/

namespace DomainModel.Live

open Run

namespace Standard

def abstractClass (v : Value) : Run ClassRef := do
  match v with
  | .cls c => if ((← world).info c).isAbstractKind then return c else noAttribute
  | _ => noAttribute

/-! ## Generic classes -/

def shownParameter (ask : Answering) (v : Value) : Run String := do
  let w ← world
  match v with
  | .nothing => return "NoneType"
  | .cls c => return w.pathOf c
  | .text s _ => return "ForwardRef(" ++ Quoted.text s ++ ")"
  | _ => ask.shown v

/-- A class with parameters. Only the root of value objects has a place for one. -/
def parameterize (ask : Answering) (cls params : Value) : Run Value := do
  let w ← world
  match cls with
  | .cls c =>
    let given := (w.tuple? params).getD [params]
    match ← ask.read cls "__parameters__", given with
    | .described "tuple" _, [x] =>
      return .described "_GenericAlias" (w.pathOf c ++ "[" ++ (← shownParameter ask x) ++ "]")
    | _, _ => unsuitable
  | _ => unsuitable

/-- Notes that a class behind a generic one has no parameters, unless it says on what it builds. -/
def noteParameters (ask : Answering) (cls : Value) : Run Value := do
  let w ← world
  match cls with
  | .cls c =>
    if (w.member? c "__orig_bases__").isSome then return .nothing
    else if .builtin "Generic" ∈ (w.info c).bases then unsuitable
    else do
      ask.assign cls "__parameters__" (.names [])
      return .nothing
  | _ => unsuitable

/-! ## All functions -/

def run (ask : Answering) (task : StandardTask) (arguments : List Value) : Run Value :=
  match task, arguments with
  | .register, [cls, v] => do Membership.register ask (← abstractClass cls) v
  | .instanceCheck, [cls, v] => do
    return .truth (← Membership.isAbstractInstance ask v (← abstractClass cls))
  | .subclassCheck, [cls, v] => do ask (.isSubclass v (← abstractClass cls))
  | .parameterize, [cls, params] => parameterize ask cls params
  | .noteParameters, [cls] => noteParameters ask cls
  | .copy, [x] => ask (.copy x)
  | .deepCopy, [x, .nothing, _] => do ask (.deepCopy x (← allocate (.dict [])))
  | .deepCopy, [x, memo, _] => do
    match (← world).entries? memo with
    | some _ => ask (.deepCopy x memo)
    | none => do
      let _ ← ask.read memo "get"
      unsuitable
  | .optionalRelease, [self] => ask.read self "optional"
  | .mandatoryRelease, [self] => ask.read self "mandatory"
  | _, _ => unsuitable

end Standard

end DomainModel.Live
