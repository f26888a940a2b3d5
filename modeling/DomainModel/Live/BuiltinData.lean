import DomainModel.Live.Parameters
import DomainModel.Live.Request

/-!
# Data of built-in values

What the built-in classes keep with their instances: what an exception holds, what a function says
of itself, what a class is made of.
-/

namespace DomainModel.Live

open Run

namespace BuiltinData

/-! ## Attributes of instances -/

/-- The dictionary of the attributes that an instance holds besides its stored fields. -/
def dictionary (v : Value) : Run Value := do
  let w ← world
  match v, w.cell? v with
  | _, some (.object _ _ (some a)) => return .cell a
  | .cell a, some (.object c slots none) => do
    let d ← allocate (.dict [])
    change (·.update a (.object c slots (some w.cells.length)))
    return d
  | .function _, _ => keep v "__dict__" (allocate (.dict []))
  | _, _ => noAttribute

def changeAttributes (v : Value)
    (f : List (Value × Value) → List (Value × Value)) : Run Unit := do
  match ← dictionary v with
  | .cell a => change fun w => w.update a (.dict (f ((w.entries? (.cell a)).getD [])))
  | _ => noAttribute

def setDictionary (v d : Value) : Run Unit := do
  let w ← world
  match v, w.cell? v, d, w.entries? d with
  | .cell a, some (.object c slots _), .cell b, some _ =>
    change (·.update a (.object c slots (some b)))
  | _, _, _, _ => unsuitable

/-! ## Exceptions -/

def ofException (v : Value) (name : String) : Run Value := do
  if name = "__dict__" then dictionary v
  else
    let absent : Value := if name = "__suppress_context__" then .truth false else .nothing
    return ((← world).slot? v (exceptionSlot name)).getD absent

def isException (w : World) (v : Value) : Bool := w.isInstance v (.builtin "BaseException")

/-- Stores what an exception holds. Its cause and its context are exceptions, if there are any; with
a cause, the context does not matter. -/
def putException (v : Value) (name : String) (x : Value) : Run Unit := do
  let w ← world
  let store (x : Value) : Run Unit := change (·.setSlot v (exceptionSlot name) x)
  match name with
  | "__dict__" => setDictionary v x
  | "args" =>
    match w.sequence? x with
    | some items => store (← tuple items)
    | none => unsuitable
  | "__suppress_context__" =>
    match x with
    | .truth _ => store x
    | _ => unsuitable
  | "__cause__" =>
    if x = .nothing ∨ isException w x then do
      store x
      change (·.setSlot v (exceptionSlot "__suppress_context__") (.truth true))
    else unsuitable
  | "__context__" => if x = .nothing ∨ isException w x then store x else unsuitable
  | _ => if x = .nothing then store x else unsuitable

/-! ## Functions -/

def ofAnnotation : Annotation → Value
  | .text s => .constant s
  | .nothing => .nothing
  | .cls c => .cls c
  | .described c s => .described c s

def ofEntries (entries : List (String × Value)) : Run Value :=
  allocate (.dict (entries.map fun e => (.constant e.1, e.2)))

def defaults (f : Function) (parameters : List String) : List (String × Value) :=
  f.body.optional.filter (·.1 ∈ parameters)

/-- What a function says of itself, unless something else is kept for it. -/
def ofFunction (f : Function) (name : String) : Run Value :=
  keep (.function f) name do
  match name with
  | "__name__" => return .constant f.name
  | "__qualname__" => return .constant f.qualname
  | "__doc__" => return Value.constant? f.doc
  | "__module__" => return .constant f.home
  | "__annotations__" => ofEntries (f.annotations.map fun a => (f.spell a.1, ofAnnotation a.2))
  | "__dict__" => ofEntries []
  | "__defaults__" =>
    match defaults f f.body.parameters with
    | [] => return .nothing
    | ds => tuple (ds.map (·.2))
  | "__kwdefaults__" =>
    match defaults f f.body.namedParameters with
    | [] => return .nothing
    | ds => ofEntries ds
  | "__closure__" =>
    match f.body with
    | .variantInit _ => return .described "tuple" "(<cell>,)"
    | _ => return .nothing
  | "__code__" => return .described "code" "<code object>"
  | _ => return .described "dict" "\x7b...\x7d"

/-- Makes a function say something else of itself. Its names are texts, and what it gives for
parameters is a tuple and a dictionary. -/
def putFunction (f : Function) (name : String) (x : Value) : Run Unit := do
  let w ← world
  let isDictionary := (w.entries? x).isSome
  let isFit :=
    match name with
    | "__name__" | "__qualname__" => x.text?.isSome
    | "__annotations__" | "__kwdefaults__" => isDictionary || x = .nothing
    | "__defaults__" => (w.tuple? x).isSome || x = .nothing
    | "__dict__" => isDictionary
    | "__code__" => false
    | _ => true
  if name ∈ ["__closure__", "__globals__", "__builtins__"] then noAttribute
  else if !isFit then unsuitable
  else do
    let x ← if name = "__annotations__" ∧ x = .nothing then allocate (.dict []) else pure x
    change fun w => { w with kept := ((.function f, name), x) :: w.kept }

/-- What a built-in function says of itself, or what a built-in class binds. -/
def ofNative (owner n name : String) : Run Value :=
  let isFunction := World.kindOfNative owner n = "builtin_function_or_method"
  match name with
  | "__name__" => return .constant n
  | "__qualname__" => return .constant (if owner = "" then n else owner ++ "." ++ n)
  | "__doc__" => return Value.constant? (Builtin.memberDoc? owner n)
  | "__text_signature__" => return Value.constant? (Builtin.signature? owner n)
  | "__objclass__" => return .cls (.builtin owner)
  | "__module__" => return if owner = "" then .constant "builtins" else .nothing
  | "__self__" =>
    if isFunction ∧ owner ≠ "" then return .cls (.builtin owner)
    else return .described "module" "<module 'builtins' (built-in)>"
  | _ => return .nothing

/-- What a built-in method says of itself together with its first argument. -/
def ofNativeMethod (self : Value) (owner n name : String) : Run Value := do
  let w ← world
  let isOperator := Builtin.memberKind? owner n = some .operator
  match name with
  | "__self__" => return self
  | "__qualname__" =>
    if isOperator then ofNative owner n name
    else
      let c := match self with
        | .cls c => c
        | _ => w.classOf self
      text ((w.info c).qualname ++ "." ++ n)
  | _ => ofNative owner n name

/-! ## Built-in values -/

def ofNumber (n : Int) (v : Value) (name : String) : Run Value :=
  match name with
  | "imag" => return .integer 0 0
  | "denominator" => return .integer 1 0
  | _ =>
    match v with
    | .integer _ _ => return v
    | _ => return .integer n 0

/-- What a built-in class keeps with one of its instances under a name. -/
def get (ask : Answering) (v : Value) (owner name : String) : Run Value := do
  let w ← world
  match owner, v, w.cell? v, v.number? with
  | "object", _, _, _ => return .cls (w.classOf v)
  | "instance", _, _, _ => if name = "__dict__" then dictionary v else return .nothing
  | "BaseException", _, some (.object _ _ _), _ => ofException v name
  | "int", _, _, some n => ofNumber n v name
  | "function", .function f, _, _ => ofFunction f name
  | "method", _, some (.method self f), _ =>
    match name with
    | "__self__" => return self
    | "__func__" => return f
    | _ => ask.read f name
  | "property", .property getter setter, _, _ =>
    match name with
    | "fget" => return .function getter
    | "fset" => return (setter.map Value.function).getD .nothing
    | "__doc__" => return Value.constant? getter.doc
    | "__isabstractmethod__" => return .truth getter.body.isRequired
    | _ => return .nothing
  | "classmethod", .classMethod f, _, _ =>
    match name with
    | "__isabstractmethod__" => return .truth f.body.isRequired
    | "__dict__" => return .described "dict" "\x7b...\x7d"
    | _ => return .function f
  | "module", _, _, _ =>
    if name = "__annotations__" then keep v name (allocate (.dict []))
    else return .described "dict" "\x7b...\x7d"
  | "member_descriptor", .slot c n, _, _ =>
    match name with
    | "__name__" => return .constant n
    | "__qualname__" => text ((w.info c).qualname ++ "." ++ n)
    | "__objclass__" => return .cls c
    | _ => return .nothing
  | _, .native o n, _, _ => ofNative o n name
  | _, _, some (.method self (.native o n)), _ => ofNativeMethod self o n name
  | _, _, _, _ => unsuitable

/-- Stores what a built-in class keeps with one of its instances under a name. -/
def put (v : Value) (owner name : String) (x : Value) : Run Unit := do
  let w ← world
  match owner, v, w.cell? v with
  | "instance", _, some (.object _ _ _) =>
    if name = "__dict__" then setDictionary v x else noAttribute
  | "BaseException", _, some (.object _ _ _) => putException v name x
  | "function", .function f, _ => putFunction f name x
  | _, _, _ => noAttribute

/-- What of it can be taken away again: the attributes of an instance, all at once. -/
def clear (v : Value) (owner name : String) : Run Unit := do
  let w ← world
  match owner, v, w.cell? v with
  | "instance", .cell a, some (.object c slots _) =>
    if name = "__dict__" then change (·.update a (.object c slots none)) else noAttribute
  | "instance", _, _ => noAttribute
  | "BaseException", _, _ => unsuitable
  | "object", _, _ => unsuitable
  | _, _, _ => noAttribute

/-! ## Classes -/

def size (w : World) : (fuel : Nat) → ClassRef → Nat
  | 0, _ => 16
  | fuel + 1, c =>
    let i := w.info c
    if w.isFixed c then if i.layout = .builtin "BaseException" then 72 else 16
    else size w fuel i.lead + 8 * i.places.length + (if i.addsReferences then 8 else 0)

def sizeOf (w : World) (c : ClassRef) : Nat := size w (w.linearize c).length c

/-- The place of references to an instance, behind its stored fields. -/
def referenceOffset (w : World) (c : ClassRef) : Nat :=
  match (w.linearize c).find? fun k => (w.info k).addsReferences with
  | some k => sizeOf w k - 8
  | none => 0

def attributeOffset (w : World) (c : ClassRef) : Int :=
  let i := w.info c
  if i.layout = .builtin "BaseException" then 16 else if i.holdsAttributes then -1 else 0

/-- What a class keeps under a name, whatever it binds. -/
def ofClass (w : World) (c : ClassRef) (name : String) : Run Value := do
  let i := w.info c
  let kept (make : Run Value) : Run Value := keep (.cls c) name make
  let named (s : String) : Run Value :=
    if w.isFixed c then text s else return (w.kept.lookup (.cls c, name)).getD (.constant s)
  match name with
  | "__name__" => named i.name
  | "__qualname__" => named i.qualname
  | "__bases__" => kept (tuple (i.bases.map .cls))
  | "__mro__" => kept (tuple (i.linearization.map .cls))
  | "__class__" => return .cls (w.kindOf c)
  | "__base__" => if c = .object then return .nothing else return .cls i.lead
  | "__module__" =>
    match w.member? c name, w.home? c with
    | some v, _ => return v
    | none, some home => if w.isFixed c then return .constant home else noAttribute
    | none, none => noAttribute
  | "__annotations__" =>
    match w.member? c name with
    | some v => return v
    | none =>
      if w.isFixed c then noAttribute
      else do
        let d ← allocate (.dict [])
        change (·.adjust c (·.bind name d))
        return d
  | "__abstractmethods__" =>
    match w.member? c name with
    | some v => return v
    | none => noAttribute
  | "__doc__" => return (w.member? c name).getD .nothing
  | "__text_signature__" => return .nothing
  | "__basicsize__" => integer (sizeOf w c)
  | "__dictoffset__" => return .integer (attributeOffset w c) 0
  | "__weakrefoffset__" => return .integer (referenceOffset w c) 0
  | "__itemsize__" => return .integer 0 0
  | _ => return .described "mappingproxy" "mappingproxy(\x7b...\x7d)"

end BuiltinData

end DomainModel.Live
