import DomainModel.Live.Loading

/-!
# Sessions

A session uses a loaded module step by step: it makes instances, reads and assigns their attributes,
compares and copies them. A step that fails answers with its failure, and the session goes on with
the world as the step has left it.
-/

namespace DomainModel.Live

inductive Term
  | nothing
  | truth (b : Bool)
  | integer (n : Int)
  | text (s : String)
  | uuid (text : String)
  | list (items : List Term)
  | named (name : String)
deriving Repr, Inhabited

inductive Step
  | construct (cls : String) (positional : List Term) (arguments : List (String × Term))
    (result : Option String)
  | tryFrom (cls : String) (value : Term) (result : Option String)
  | derive (cls : String) (name : String) (rule : Rule)
  | read (object : Term) (name : String) (result : Option String)
  | assign (object : Term) (name : String) (value : Term)
  | append (object : Term) (name : String) (value : Term)
  | equal (a b : Term)
  | identical (a b : Term)
  | hashEqual (a b : Term)
  | text (object : Term)
  | repr (object : Term)
  | clone (object : Term) (result : Option String)
  | copy (object : Term) (result : Option String)
  | nextVersion (object : Term)
  | contracts (object : Term)
  | variantOf (object : Term) (sum : String)
  | describe (cls : String)
  | document (cls : String) (name : String)
deriving Inhabited

inductive Reply
  | nothing
  | truth (b : Bool)
  | integer (text : String)
  | text (s : String)
  | uuid (text : String)
  | list (items : List Reply)
  | cls (qualname : String)
  | shown (text : String)
deriving Repr, Inhabited

structure ClassReport where
  name : String
  qualname : String
  bases : List String
  linearization : List String
  slots : List String
  required : List String
  doc : Option String
  variants : Option (List String)
  events : Option String
deriving Repr, DecidableEq

inductive Answer
  | value (r : Reply)
  | contracts (memberships : List (Contract × Bool))
  | cls (report : ClassReport)
deriving Repr

/-- How a step fails: the class of the fault, and of a fault that the module or a contract raises
itself the text and the value that was rejected. -/
structure Failure where
  name : String
  message : Option String := none
  value : Option Reply := none
deriving Repr

namespace Run

open Request (answer)

def name (result : Option String) (v : Value) : Run Unit :=
  match result with
  | some n => change fun w => { w with named := bindMember n v w.named }
  | none => return ()

mutual

def value : Term → Run Value
  | .nothing => return .nothing
  | .truth b => return .truth b
  | .integer n => integer n
  | .text s => text s
  | .uuid s =>
    match Identification.ofText? s with
    | some n => do Identifier.make Identifier.cls (← integer n)
    | none => fail .badValue
  | .list items => do allocate (.list (← values items))
  | .named name => do
    match (← world).named.lookup name with
    | some v => return v
    | none => fail .unbound

def values : List Term → Run (List Value)
  | [] => return []
  | t :: ts => return (← value t) :: (← values ts)

end

def arguments : List (String × Term) → Run (List (String × Value))
  | [] => return []
  | t :: ts => return (t.1, ← value t.2) :: (← arguments ts)

/-! ## Replies -/

def replyWithin : (fuel : Nat) → Value → Run Reply
  | 0, _ => fail .endless
  | fuel + 1, v => do
    let w ← world
    match v, w.cell? v with
    | .nothing, _ => return .nothing
    | .truth b, _ => return .truth b
    | .integer n _, _ =>
      match WholeNumber.text? n with
      | some s => return .integer s
      | none => fail .badValue
    | .text s _, _ => return .text s
    | .cls c, _ => return .cls (w.info c).qualname
    | _, some (.list items) => return .list (← items.mapM (replyWithin fuel))
    | _, _ =>
      if w.isInstance v Identifier.cls then return .uuid (← Answering.textOf answer v)
      else return .shown (← Answering.shown answer v)

def reply (v : Value) : Run Reply := do replyWithin ((← world).cells.length + 2) v

def answerWith (result : Option String) (v : Value) : Run Answer := do
  name result v
  return .value (← reply v)

/-! ## Classes by name -/

/-- What a name stands for: a value that a step has named, or a name of the module with attributes
behind it. -/
def resolve (name : String) : Run Value := do
  let w ← world
  match w.named.lookup name with
  | some v => return v
  | none =>
    match name.splitOn "." with
    | [] => noAttribute
    | first :: rest =>
      match w.moduleMember? first with
      | some v => rest.foldlM (fun v part => Answering.read answer v part) v
      | none => noAttribute

def namesOf (v : Value) : Run (List String) := do
  match (← world).sequence? v with
  | some items => items.mapM fun (x : Value) =>
      match x.text? with
      | some s => pure s
      | none => unsuitable
  | none => unsuitable

/-! ## Steps -/

def sessionHome : String := "__main__"

def isAbstractKind (w : World) : Value → Bool
  | .cls c => (w.info c).isAbstractKind
  | _ => false

/-- A new class that builds on another one and supplies its rule. An abstract class is made by the
module of abstract classes. -/
def derive (cls name : String) (rule : Rule) : Run Value := do
  let base ← resolve cls
  let f : Function := { owner := name, name := "validate", body := .rule rule, home := sessionHome }
  let home := if isAbstractKind (← world) base then "abc" else sessionHome
  let c ← Making.make answer name [base]
    [("__slots__", .names []), ("validate", .classMethod f), ("__module__", .constant home)]
  return .cls c

def append (object : Value) (key : String) (x : Term) : Run Unit := do
  let list ← Answering.read answer object key
  let method ← Answering.read answer list "append"
  let _ ← Answering.call answer method [← value x]

def callMethod (object : Value) (name : String) : Run Value := do
  Answering.call answer (← Answering.read answer object name) []

def contracts (v : Value) : Run (List (Contract × Bool)) :=
  Contract.all.mapM fun c => do
    return (c, ← Answering.isTrue answer (← answer (.isInstance v (.cls (.contract c)))))

def variantOf (v sum : Value) : Run (Option String) := do
  let names ← namesOf (← Answering.read answer sum "variants")
  names.foldlM (fun found name => do
    if found.isSome then return found
    else
      let cls ← Answering.read answer sum name
      if ← Answering.isTrue answer (← answer (.isInstance v cls)) then return some name
      else return none) none

def report (v : Value) : Run ClassReport := do
  let w ← world
  match v with
  | .cls c =>
    let info := w.info c
    let slots ← namesOf (← Answering.read answer v "__slots__")
    let required ←
      match w.member? c "__abstractmethods__" with
      | some (.nameSet ns) => pure ns
      | none => pure []
      | some v => (·.mergeSort fun a b => decide (a ≤ b)) <$> namesOf v
    return { name := info.name
             qualname := info.qualname
             bases := info.bases.map fun b => (w.info b).name
             linearization := info.linearization.map fun b => (w.info b).name
             slots, required
             doc := (w.member? c "__doc__").bind Value.text?
             variants :=
               match w.bound? c "variants" with
               | some (.names ns) => some ns
               | _ => none
             events :=
               match w.bound? c Role.eventsArgument with
               | some (.cls e) => some (w.info e).name
               | _ => none }
  | _ => noAttribute

def document (v : Value) (name : String) : Run Value := do
  let x ← Answering.read answer v name
  match ← Answering.read answer x "__doc__" with
  | .text s k => return .text s k
  | _ => return .nothing

def step : Step → Run Answer
  | .construct cls positional named result => do
    let named ← arguments named
    let c ← resolve cls
    answerWith result (← Answering.call answer c (← values positional) named)
  | .tryFrom cls x result => do
    let method ← Answering.read answer (← resolve cls) "try_from"
    answerWith result (← Answering.call answer method [← value x])
  | .derive cls n rule => do answerWith (some n) (← derive cls n rule)
  | .read object n result => do
    answerWith result (← Answering.read answer (← value object) n)
  | .assign object n x => do
    let v ← value object
    let _ ← answer (.assign v n (← value x))
    return .value (← reply (← Answering.read answer v n))
  | .append object n x => do
    let v ← value object
    append v n x
    return .value (← reply (← Answering.read answer v n))
  | .equal a b => do
    let x ← value a
    return .value (← reply (← answer (.equal x (← value b))))
  | .identical a b => do
    let x ← value a
    return .value (.truth (Value.identical x (← value b)))
  | .hashEqual a b => do
    let x ← Comparison.hashKey answer (← value a)
    let y ← Comparison.hashKey answer (← value b)
    return .value (.truth (x = y))
  | .text object => do return .value (.text (← Answering.textOf answer (← value object)))
  | .repr object => do return .value (.text (← Answering.shown answer (← value object)))
  | .clone object result => do answerWith result (← callMethod (← value object) "clone")
  | .copy object result => do answerWith result (← answer (.copy (← value object)))
  | .nextVersion object => do
    return .value (← reply (← callMethod (← value object) "next_version"))
  | .contracts object => do return .contracts (← contracts (← value object))
  | .variantOf object sum => do
    let v ← value object
    match ← variantOf v (← resolve sum) with
    | some name => return .value (.text name)
    | none => return .value .nothing
  | .describe cls => do return .cls (← report (← resolve cls))
  | .document cls n => do return .value (← reply (← document (← resolve cls) n))

/-! ## Failures -/

/-- The text of an exception and the value that it carries, if it is the error of a value object. -/
def details (e : Value) : Run (String × Option Reply) := do
  let message ← Answering.textOf answer e
  if (← world).isInstance e (.contract .valueValidationError) then
    return (message, some (← reply (← Answering.read answer e "value")))
  else return (message, none)

def failure (f : Fault) : StateM World Failure := fun w =>
  match f with
  | .raised kind => (⟨kind.text, none, none⟩, w)
  | .thrown e =>
    let name := (w.info (w.classOf e)).name
    match details e w with
    | (.ok (message, value), w) => (⟨name, some message, value⟩, w)
    | (.error _, w) => (⟨name, none, none⟩, w)

def outcome (s : Step) : StateM World (Except Failure Answer) := do
  match ← (step s).run with
  | .ok a => return .ok a
  | .error f => return .error (← failure f)

end Run

def World.run (w : World) (steps : List Step) : List (Except Failure Answer) :=
  ((steps.mapM Run.outcome).run w).1

end DomainModel.Live
