import DomainModel.Live.Identifier
import DomainModel.Live.Standard
import DomainModel.Member
import DomainModel.TypeClass

/-!
# Execution

What the functions of generated classes and of contracts do with their arguments. They use the names
of the module as these are when a function is called, and private names as the class spells them in
whose body the function stands.
-/

namespace DomainModel.Live

open Run

namespace Function

/-! ## Names and stored fields -/

def global (f : Function) (name : String) : Run Value := Run.globalIn f.owner (f.spell name)

def stored (f : Function) (ask : Answering) (v : Value) (field : String) : Run Value :=
  ask.read v (f.spell (slot field))

def store (f : Function) (ask : Answering) (v : Value) (field : String) (x : Value) : Run Unit := do
  ask.assign v (f.spell (slot field)) x

def typeOf (f : Function) (ask : Answering) (v : Value) : Run Value := do
  ask.call (← f.global "type") [v]

def typeQualname (f : Function) (ask : Answering) (v : Value) : Run Value := do
  ask.read (← f.typeOf ask v) "__qualname__"

/-- A call of a class of the module with one text, raised as an exception. -/
def raise (f : Function) (ask : Answering) (exception message : String) : Run α := do
  ask.raise (← f.global exception) message

/-! ## Functions of records -/

def initRecord (f : Function) (ask : Answering) (self : Value) :
    (fields : List String) → (given : List Value) → Run Value
  | field :: fields, x :: given => do
    f.store ask self field x
    f.initRecord ask self fields given
  | _, _ => return .nothing

def showRecord (f : Function) (ask : Answering) (owner : String) (fields : List String)
    (self : Value) : Run Value := do
  let parts ← fields.mapM fun field => do
    return field ++ "=" ++ (← ask.shown (← f.stored ask self field))
  text (owner ++ "(" ++ ", ".intercalate parts ++ ")")

def compareField (f : Function) (ask : Answering) (owner field : String) (self other : Value) :
    Run Value := do
  let test ← f.global "isinstance"
  if ← ask.isTrue (← ask.call test [other, ← f.global owner]) then
    let x ← f.stored ask self field
    ask (.equal x (← f.stored ask other field))
  else f.global "NotImplemented"

def applyTo (f : Function) (ask : Answering) (builtin field : String) (self : Value) : Run Value := do
  let g ← f.global builtin
  ask.call g [← f.stored ask self field]

/-! ## Functions of value objects -/

def cloneOf (f : Function) (ask : Answering) (field : String) (self : Value) : Run Value := do
  let cls ← f.typeOf ask self
  let copy ← ask.read (← f.global "_copy") "copy"
  let x ← ask.call copy [← f.stored ask self field]
  ask.call cls [] [(field, x)]

def tryFrom (f : Function) (ask : Answering) (field error : String) (cls x : Value) : Run Value := do
  let rule ← ask.read cls "validate"
  if ← ask.isTrue (← ask.call rule [x]) then ask.call cls [] [(field, x)]
  else
    let e ← ask.call (← f.global error) [x]
    if (← world).isInstance e (.builtin "BaseException") then throw (.thrown e) else unsuitable

/-! ## Functions of sums -/

def checkPayload (f : Function) (ask : Answering) (contract : Contract) (self payload : Value) :
    Run Unit := do
  let test ← f.global "isinstance"
  if ← ask.isTrue (← ask.call test [payload, ← f.global contract.text]) then return ()
  else
    let exception ← f.global "TypeError"
    let cls ← ask.textOf (← f.typeQualname ask self)
    let given ← ask.textOf (← ask.read (← f.typeOf ask payload) "__name__")
    ask.raise exception (wrongPayloadText cls contract.text given)

/-- A sum itself is not constructed, only its variants are. -/
def initSum (f : Function) (ask : Answering) (owner : String) (contract : Option Contract)
    (self payload : Value) : Run Value := do
  let cls ← f.typeOf ask self
  if cls = (← f.global owner) then f.raise ask "TypeError" (noVariantText owner)
  else
    match contract with
    | some required => f.checkPayload ask required self payload
    | none => pure ()
    f.store ask self "payload" payload
    return .nothing

def initVariant (f : Function) (ask : Answering) (own : ClassRef) (self payload : Value) :
    Run Value := do
  let behind ← f.global "super"
  if behind = .cls (.builtin "super") then
    let w ← world
    if w.isInstance self own then
      match w.boundBehind? (w.classOf self) own "__init__" with
      | some d =>
        let _ ← ask.call (← Attribute.bind ask self (w.classOf self) d) [payload]
        return .nothing
      | none => noAttribute
    else unsuitable
  else
    let _ ← ask.call (← ask.read (← ask.call behind []) "__init__") [payload]
    return .nothing

def showSum (f : Function) (ask : Answering) (self : Value) : Run Value := do
  let name ← ask.textOf (← f.typeQualname ask self)
  text (name ++ "(" ++ (← ask.shown (← f.stored ask self "payload")) ++ ")")

def comparePayload (f : Function) (ask : Answering) (self other : Value) : Run Value := do
  let theirs ← f.typeOf ask other
  if theirs = (← f.typeOf ask self) then
    let x ← f.stored ask self "payload"
    ask (.equal x (← f.stored ask other "payload"))
  else f.global "NotImplemented"

def hashPayload (f : Function) (ask : Answering) (self : Value) : Run Value := do
  let g ← f.global "hash"
  let name ← f.typeQualname ask self
  ask.call g [← tuple [name, ← f.stored ask self "payload"]]

/-- The only part of an instance of a class, by the name that the class gives its parts; `none` if
the value is no instance of it or has no such part. -/
def part? (ask : Answering) (v cls : Value) : Run (Option Value) := do
  match cls with
  | .cls _ =>
    if ← ask.isTrue (← ask (.isInstance v cls)) then
      match ← attempt (ask.read cls "__match_args__") with
      | .ok (.names (name :: _)) =>
        match ← attempt (ask.read v name) with
        | .ok x => return some x
        | .error (.raised .noAttribute) => return none
        | .error e => throw e
      | .ok _ | .error (.raised .noAttribute) => unsuitable
      | .error e => throw e
    else return none
  | _ => unsuitable

/-- Asks the payload, if the value is one of the variants. -/
def dispatchTo (f : Function) (ask : Answering) (owner name : String) (self : Value) :
    (variants : List String) → Run Value
  | [] => return .nothing
  | variant :: variants => do
    let cls ← ask.read (← f.global owner) (f.spell variant)
    match ← part? ask self cls with
    | some payload => ask.read payload (f.spell name)
    | none => f.dispatchTo ask owner name self variants

/-! ## Functions of contracts -/

def next (ask : Answering) (self : Value) : Run Value := do
  match (← ask.read self "version").number? with
  | some n => integer (n + 1)
  | none => unsuitable

def initError (ask : Answering) (self x : Value) : Run Value := do
  if (← world).isInstance self (.contract .valueValidationError) then
    let shown ← ask.shown x
    let w ← world
    let message ← text (rejectionText (w.info (w.classOf self)).name shown)
    let arguments ← tuple [message]
    change (·.setSlot self (exceptionSlot "args") arguments)
    ask.assign self "value" x
    return .nothing
  else unsuitable

/-- Whether a text occurs in a value: a part of a text, an item of something with items, or what the
value's class says. -/
def contains (ask : Answering) (s : String) (v : Value) : Run Bool := do
  let w ← world
  match v, w.bytes? v, w.sequence? v with
  | .text t _, _, _ => return TypeClass.occursIn s.toList t.toList
  | .nameSet ns, _, _ => return s ∈ ns
  | _, some _, _ => unsuitable
  | _, none, some items =>
    items.foldlM (fun found item => do
      if found then return true else ask.isTrue (← ask (.equal item (.text s w.copies)))) false
  | _, none, none =>
    match ← Attribute.bySpecial? ask v "__contains__" [.constant s] with
    | some answer => ask.isTrue answer
    | none => unsuitable

def judge (ask : Answering) (rule : Rule) (v : Value) : Run Value := do
  match rule with
  | .always b => return .truth b
  | .max n => ask (.order .lessEqual v (.integer n 0))
  | .contains s => return .truth (← contains ask s v)

/-! ## All functions -/

def run (f : Function) (ask : Answering) (arguments : List Value) : Run Value :=
  match f.body, arguments with
  | .recordInit fields, self :: given => f.initRecord ask self fields given
  | .recordRepr owner fields, [self] => f.showRecord ask owner fields self
  | .stored field, [self] => f.stored ask self field
  | .count field, [self] => f.applyTo ask "int" field self
  | .store field, [self, x] => do
    f.store ask self field x
    return .nothing
  | .sumInit owner contract, [self, payload] => f.initSum ask owner contract self payload
  | .variantInit own, [self, payload] => f.initVariant ask own self payload
  | .sumRepr, [self] => f.showSum ask self
  | .payloadEquality, [self, other] => f.comparePayload ask self other
  | .payloadHash, [self] => f.hashPayload ask self
  | .fieldEquality owner field, [self, other] => f.compareField ask owner field self other
  | .fieldHash field, [self] => f.applyTo ask "hash" field self
  | .fieldText field, [self] => f.applyTo ask "str" field self
  | .clone field, [self] => f.cloneOf ask field self
  | .tryFrom field error, [cls, x] => f.tryFrom ask field error cls x
  | .dispatch owner variants name, [self] =>
    if variants.isEmpty then f.raise ask "TypeError" (emptySumText owner)
    else f.dispatchTo ask owner name self variants
  | .required _, _ => return .nothing
  | .requiredRule, _ => ask.raise (.cls (.builtin "NotImplementedError")) noRuleText
  | .nextVersion, [self] => next ask self
  | .errorInit, [self, x] => initError ask self x
  | .rule r, [_, x] => judge ask r x
  | .identifier task, arguments => Identifier.run ask task arguments
  | .standard task, arguments => Standard.run ask task arguments
  | _, _ => unsuitable

end Function

end DomainModel.Live
