import DomainModel.Live.Copying
import DomainModel.Live.Display
import DomainModel.Live.Assigning
import DomainModel.Live.Membership

/-!
# Calls of built-in functions

What the built-in functions do, and what the built-in classes bind when it is called with the value
as its first argument.
-/

namespace DomainModel.Live

open Run

namespace BuiltinCall

def nothingOf (r : Run Unit) : Run Value := do
  r
  return .nothing

/-! ## Functions -/

def length (ask : Answering) (v : Value) : Run Value := do
  match (← world).sequence? v with
  | some items => integer items.length
  | none =>
    match ← Attribute.bySpecial? ask v "__len__" with
    | some (.integer n k) => if n < 0 then fail .badValue else return .integer n k
    | _ => unsuitable

def function (ask : Answering) (name : String) (given : List Value) : Run Value :=
  match name, given with
  | "isinstance", [v, c] => ask (.isInstance v c)
  | "hash", [v] => ask (.hash v)
  | "repr", [v] => ask (.repr v)
  | "len", [v] => length ask v
  | "getattr", [v, .text n _] => ask (.read v n)
  | "setattr", [v, .text n _, x] => ask (.assign v n x)
  | "print", _ => return .nothing
  | _, _ => unsuitable

/-! ## Making instances -/

def maker (w : World) (c : ClassRef) : ClassRef :=
  ((w.linearize c).find? fun k => w.isFixed k && (Builtin.members (w.info k).name).any fun r =>
    r.1 = .free && "__new__" ∈ r.2).getD .object

/-- A new instance of a class, before it is initialised. A class with something left to supply has
none. -/
def bare (w : World) (c : ClassRef) : Run Value :=
  if (w.info c).isIncomplete then unsuitable else allocate (.object c [] none)

/-- Makes a new instance of a class, as the root of all classes or the root of exceptions does. -/
def make (owner : String) (cls : Value) (given : List Value) (named : List (String × Value)) :
    Run Value := do
  let w ← world
  match owner, cls with
  | "object", .cls c =>
    let isBare := given.isEmpty && named.isEmpty
    if maker w c ≠ .object then unsuitable
    else if !isBare && (Attribute.hasOwn w c "__new__" || !Attribute.hasOwn w c "__init__") then
      unsuitable
    else bare w c
  | "BaseException", .cls c =>
    if w.isSubclass c (.builtin "BaseException") then do
      let arguments ← tuple given
      allocate (.object c [(exceptionSlot "args", arguments)] none)
    else unsuitable
  | _, _ => unsuitable

/-! ## The root of all classes -/

/-- Whether two values differ, if the class of the first one can tell whether they are equal. -/
def differ (ask : Answering) (a b : Value) : Run Value := do
  let answer ← Comparison.half ask a b
  if answer = .undecided then return answer else return .truth !(← ask.isTrue answer)

def ofObject (ask : Answering) (name : String) (self : Value) (given : List Value) :
    Run Value := do
  let w ← world
  match name, self, given with
  | "__init__", _, _ =>
    let c := w.classOf self
    let isBuiltin := w.isFixed c ∧ c ≠ .object ∨ maker w c ≠ .object
    if given.isEmpty ∨ w.bound? c "__init__" = some (.native "object" "__init__")
        ∧ (isBuiltin ∨ Attribute.hasOwn w c "__new__") then
      return .nothing
    else unsuitable
  | "__repr__", _, [] =>
    match w.cell? self with
    | some (.object c _ _) => text (Display.plain w c)
    | _ => ask (.repr self)
  | "__str__", _, [] => ask (.repr self)
  | "__hash__", _, [] => allocate (.hash (.identity self))
  | "__eq__", _, [x] => return Comparison.undecidedUnless (Value.identical self x)
  | "__ne__", _, [x] => differ ask self x
  | "__lt__", _, [_] | "__le__", _, [_] | "__gt__", _, [_] | "__ge__", _, [_] => return .undecided
  | "__getattribute__", _, [.text n _] => Attribute.ofInstance ask self n
  | "__setattr__", .cls _, _ | "__delattr__", .cls _, _ => unsuitable
  | "__setattr__", _, [.text n _, x] => nothingOf (Assigning.assignInstance ask self n x)
  | "__delattr__", _, [.text n _] => nothingOf (Assigning.deleteInstance ask self n)
  | "__format__", _, [.text s _] => if s.isEmpty then ask (.text self) else unsuitable
  | "__getstate__", _, [] => Copying.defaultState ask self false
  | "__reduce__", _, [] => Copying.oldParts ask self
  | "__reduce_ex__", _, [protocol] =>
    match protocol.number? with
    | some n => Copying.takeApart ask self (n < 2)
    | none => unsuitable
  | "__sizeof__", _, [] => integer (BuiltinData.sizeOf w (w.classOf self))
  | "__init_subclass__", _, [] => return .nothing
  | "__subclasshook__", _, _ => return .undecided
  | _, _, _ => unsuitable

/-! ## Classes -/

def alternatives? (w : World) (v : Value) : Option (List Value) :=
  match v, w.cell? v with
  | .nothing, _ => some [.cls (.builtin "NoneType")]
  | .cls _, _ | .described "_GenericAlias" _, _ => some [v]
  | _, some (.union vs) => some vs
  | _, _ => none

/-- The union of two classes; each class is in it once. -/
def unite (a b : Value) : Run Value := do
  let w ← world
  match alternatives? w a, alternatives? w b with
  | some as, some bs =>
    match (as ++ bs).eraseDups with
    | [c] => return c
    | cs => allocate (.union cs)
  | _, _ => return .undecided

def ofType (ask : Answering) (name : String) (c : ClassRef) (given : List Value)
    (named : List (String × Value)) : Run Value := do
  let w ← world
  let self := Value.cls c
  match name, given with
  | "__call__", _ => ask (.call self given named)
  | "__prepare__", _ => allocate (.dict [])
  | _, _ =>
    if !named.isEmpty then unsuitable
    else
      match name, given with
      | "mro", [] => allocate (.list ((w.linearize c).map .cls))
      | "__subclasses__", [] => allocate (.list ((w.subclasses c).map .cls))
      | "__instancecheck__", [v] => return .truth (← Membership.isPlainInstance ask v c)
      | "__subclasscheck__", [.cls sub] => return .truth (w.isSubclass sub c)
      | "__or__", [x] => unite self x
      | "__ror__", [x] => unite x self
      | "__repr__", [] => ask (.repr self)
      | "__getattribute__", [.text n _] => ask (.read self n)
      | "__setattr__", [.text n _, x] => nothingOf (Assigning.assignClass ask c n x)
      | "__delattr__", [.text n _] => nothingOf (Assigning.deleteClass c n)
      | "__sizeof__", [] => unsuitable
      | _, _ => unsuitable

/-! ## Exceptions -/

def addNote (ask : Answering) (self note : Value) : Run Unit := do
  match note with
  | .text _ _ =>
    match ← ask.read? self "__notes__" with
    | none => do ask.assign self "__notes__" (← allocate (.list [note]))
    | some notes =>
      match notes, (← world).items? notes with
      | .cell a, some items => change (·.update a (.list (items ++ [note])))
      | _, _ => unsuitable
  | _ => unsuitable

def restoreException (ask : Answering) (self state : Value) : Run Unit := do
  match state, (← world).entries? state with
  | .nothing, _ => return ()
  | _, some entries =>
    entries.forM fun e =>
      match e.1.text? with
      | some name => ask.assign self name e.2
      | none => unsuitable
  | _, none => unsuitable

/-- An exception is made again of its class and its arguments, and of its attributes if it has
some. -/
def partsOfException (self : Value) : Run Value := do
  let w ← world
  let parts := [.cls (w.classOf self), ← BuiltinData.ofException self "args"]
  match w.cell? self with
  | some (.object _ _ (some a)) => tuple (parts ++ [.cell a])
  | _ => tuple parts

def ofException (ask : Answering) (name : String) (self : Value) (given : List Value) :
    Run Value := do
  match name, given with
  | "__init__", _ => do
    let arguments ← tuple given
    nothingOf (change (·.setSlot self (exceptionSlot "args") arguments))
  | "__repr__", [] => do text (← Display.exception ask self)
  | "__str__", [] => do text (← Display.exceptionText ask self)
  | "__reduce__", [] => partsOfException self
  | "__setstate__", [state] => nothingOf (restoreException ask self state)
  | "with_traceback", [.nothing] => return self
  | "add_note", [note] => nothingOf (addNote ask self note)
  | _, _ => ofObject ask name self given

/-! ## Members of classes -/

/-- Whether a member of a class can be asked for by a value. What a class keeps with its instances is
there only for these. -/
def fits (w : World) (d v : Value) : Bool :=
  match d with
  | .slot owner _ => w.isInstance v owner
  | .native "instance" _ =>
    match w.cell? v with
    | some (.object _ _ _) => true
    | _ => false
  | .native owner _ => w.isInstance v (.builtin owner)
  | _ => true

/-- Gets what a member of a class gives for an instance of it, or for the class. -/
def get (ask : Answering) (d v cls : Value) : Run Value := do
  let w ← world
  match d, v, cls with
  | _, .nothing, .nothing => unsuitable
  | .classMethod f, _, .nothing => allocate (.method (.cls (w.classOf v)) (.function f))
  | .classMethod f, _, _ => allocate (.method cls (.function f))
  | _, .nothing, _ => return d
  | _, _, _ => if fits w d v then Attribute.bind ask v (w.classOf v) d else unsuitable

def set (ask : Answering) (d v x : Value) : Run Unit := do
  if !fits (← world) d v then unsuitable
  else
    match d with
    | .property _ (some f) => do let _ ← ask.call (.function f) [v, x]
    | .property _ none => noAttribute
    | .slot owner name => change (·.setSlot v (owner, name) x)
    | .native "object" "__class__" => Assigning.setClass v x
    | .native owner name => BuiltinData.put v owner name x
    | _ => unsuitable

def delete (d v : Value) : Run Unit := do
  let w ← world
  if !fits w d v then unsuitable
  else
    match d with
    | .property _ _ => noAttribute
    | .slot owner name =>
      if (w.slot? v (owner, name)).isSome then change (·.clearSlot v (owner, name))
      else noAttribute
    | .native owner name => BuiltinData.clear v owner name
    | _ => unsuitable

/-- What a member of a class does when it is asked for, or when it is called. -/
def ofMember? (ask : Answering) (name : String) (self : Value) (given : List Value)
    (named : List (String × Value)) : Option (Run Value) :=
  match name, given with
  | "__call__", _ => some (ask.call self given named)
  | "__get__", [v] => some (get ask self v .nothing)
  | "__get__", [v, cls] => some (get ask self v cls)
  | "__set__", [v, x] => some (nothingOf (set ask self v x))
  | "__delete__", [v] => some (nothingOf (delete self v))
  | _, _ => none

/-! ## Containers -/

/-- The place of an item, counted from the end if it is negative. -/
def place? (size : Nat) (n : Int) : Option Nat :=
  let i := if n < 0 then n + size else n
  if 0 ≤ i ∧ i < size then some i.toNat else none

def item (v place : Value) : Run Value := do
  let w ← world
  match w.entries? v, w.sequence? v, place.number? with
  | some entries, _, _ =>
    match World.keyed? entries place with
    | some x => return x
    | none => fail .missingKey
  | none, some items, some n =>
    match (place? items.length n).bind (items[·]?) with
    | some x => return x
    | none => fail .badIndex
  | none, _, _ => unsuitable

def occurs (ask : Answering) (x : Value) (items : List Value) : Run Bool :=
  items.foldlM (fun found y => do if found then return true else Comparison.sameItem ask y x) false

def setItems (list : Value) (items : List Value) : Run Value := do
  match list, (← world).items? list with
  | .cell a, some _ => nothingOf (change (·.update a (.list items)))
  | _, _ => unsuitable

def ofList (ask : Answering) (name : String) (self : Value) (items given : List Value) :
    Run Value := do
  let w ← world
  match name, given with
  | "append", [x] => setItems self (items ++ [x])
  | "extend", [x] =>
    match w.sequence? x with
    | some more => setItems self (items ++ more)
    | none => unsuitable
  | "clear", [] => setItems self []
  | "reverse", [] => setItems self items.reverse
  | "copy", [] => allocate (.list items)
  | "insert", [place, x] =>
    match place.number? with
    | some n =>
      let i := (if n < 0 then n + items.length else n).toNat
      setItems self (items.take i ++ x :: items.drop i)
    | none => unsuitable
  | "pop", [] =>
    match items.getLast? with
    | some x => do
      let _ ← setItems self items.dropLast
      return x
    | none => fail .badIndex
  | "pop", [place] =>
    match (place.number?).map (place? items.length) with
    | some (some i) => do
      let _ ← setItems self (items.eraseIdx i)
      return items.getD i .nothing
    | some none => fail .badIndex
    | none => unsuitable
  | "remove", [x] => do
    let places ← items.mapM fun y => Comparison.sameItem ask y x
    match places.findIdx? id with
    | some i => setItems self (items.eraseIdx i)
    | none => fail .badValue
  | _, _ => unsuitable

def ofDictionary (name : String) (self : Value) (entries : List (Value × Value))
    (given : List Value) : Run Value := do
  let keyed? := World.keyed? entries
  match name, given with
  | "get", [key] => return (keyed? key).getD .nothing
  | "get", [key, x] => return (keyed? key).getD x
  | "copy", [] => allocate (.dict entries)
  | "__contains__", [key] => return .truth (keyed? key).isSome
  | "__setitem__", [key, x] =>
    match self with
    | .cell a => nothingOf (change (·.update a (.dict (World.putEntry key x entries))))
    | _ => unsuitable
  | "update", [other] => nothingOf (Copying.addAll self other)
  | "clear", [] =>
    match self with
    | .cell a => nothingOf (change (·.update a (.dict [])))
    | _ => unsuitable
  | _, _ => unsuitable

def ofSequence (ask : Answering) (name : String) (self : Value) (items given : List Value) :
    Run Value := do
  match name, given with
  | "__len__", [] => integer items.length
  | "__getitem__", [place] => item self place
  | "__contains__", [x] => return .truth (← occurs ask x items)
  | "count", [x] => do
    let found ← items.mapM fun y => Comparison.sameItem ask y x
    integer (found.count true)
  | "index", [x] => do
    let found ← items.mapM fun y => Comparison.sameItem ask y x
    match found.findIdx? id with
    | some i => integer i
    | none => fail .badValue
  | _, _ =>
    let w ← world
    match w.items? self, w.entries? self with
    | some items, _ => ofList ask name self items given
    | _, some entries => ofDictionary name self entries given
    | none, none => unsuitable

/-! ## Built-in values -/

def ofOperator? (ask : Answering) (name : String) (self : Value) (given : List Value) :
    Option (Run Value) :=
  match name, given with
  | "__repr__", [] => some (ask (.repr self))
  | "__str__", [] => some (ask (.text self))
  | "__hash__", [] => some (ask (.hash self))
  | "__eq__", [x] => some (Comparison.half ask self x)
  | "__ne__", [x] => some (differ ask self x)
  | "__lt__", [x] => some (Comparison.orderHalf ask .less self x)
  | "__le__", [x] => some (Comparison.orderHalf ask .lessEqual self x)
  | "__gt__", [x] => some (Comparison.orderHalf ask .greater self x)
  | "__ge__", [x] => some (Comparison.orderHalf ask .greaterEqual self x)
  | "__bool__", [] => some (ask (.truth self))
  | "__getattribute__", [.text n _] => some (ask (.read self n))
  | _, _ => none

def ofNumber (name : String) (n : Int) (given : List Value) : Run Value :=
  match name, given with
  | "__int__", [] | "__index__", [] | "__pos__", [] | "conjugate", [] | "__trunc__", []
  | "__floor__", [] | "__ceil__", [] | "__round__", [] => integer n
  | "__neg__", [] => integer (-n)
  | "__abs__", [] => integer n.natAbs
  | "__add__", [x] | "__radd__", [x] => binary x fun m => n + m
  | "__sub__", [x] => binary x fun m => n - m
  | "__rsub__", [x] => binary x fun m => m - n
  | "__mul__", [x] | "__rmul__", [x] => binary x fun m => n * m
  | "bit_length", [] => integer (if n = 0 then 0 else n.natAbs.log2 + 1)
  | _, _ => unsuitable
where
  /-- An operation with another number, if the other value is one. -/
  binary (x : Value) (f : Int → Int) : Run Value :=
    match x.number? with
    | some m => integer (f m)
    | none => return .undecided

def ofText (name s : String) (given : List Value) : Run Value :=
  match name, given with
  | "__add__", [.text t _] => text (s ++ t)
  | "__contains__", [.text t _] => return .truth ((s.splitOn t).length ≠ 1 || t.isEmpty)
  | "startswith", [.text t _] => return .truth (t.toList.isPrefixOf s.toList)
  | "endswith", [.text t _] => return .truth (t.toList.isSuffixOf s.toList)
  | "__format__", [.text t _] => if t.isEmpty then return .constant s else unsuitable
  | _, _ => unsuitable

/-- What makes a function or a method again: it is read from what it belongs to. A built-in function
is made by its name alone. -/
def reduced (ask : Answering) (owner : String) (self : Value) : Run Value := do
  match self with
  | .undecided => return .constant "NotImplemented"
  | .native "" name => return .constant name
  | _ =>
    let isBound := owner ∈ ["method", "method-wrapper", "builtin_function_or_method"]
    let place ← ask.read self (if isBound then "__self__" else "__objclass__")
    Copying.reading place (← ask.read self "__name__")

/-- What a built-in value does that has been found to be of the class that binds the name. -/
def ofValue (ask : Answering) (owner name : String) (self : Value) (given : List Value)
    (named : List (String × Value)) : Run Value := do
  let w ← world
  match owner, self, w.cell? self with
  | "type", .cls c, _ => ofType ask name c given named
  | _, _, _ =>
    if name = "__call__" then ask.call self given named
    else if !named.isEmpty then unsuitable
    else
      match owner, w.sequence? self, self.number?, self with
      | "object", _, _, _ => ofObject ask name self given
      | "BaseException", _, _, _ => ofException ask name self given
      | _, items, number, _ =>
        match ofMember? ask name self given named, ofOperator? ask name self given with
        | some r, _ => r
        | none, some r => r
        | none, none =>
          match self, number, items with
          | .text s _, _, _ =>
            if name ∈ ["__len__", "__getitem__"] then ofSequence ask name self (items.getD []) given
            else ofText name s given
          | _, some n, _ => ofNumber name n given
          | _, none, some items => ofSequence ask name self items given
          | _, none, none =>
            if name = "__reduce__" ∧ given.isEmpty then reduced ask owner self else unsuitable

/-- Calls what a built-in class binds, or a built-in function. What works on an instance needs one
of its class. -/
def call (ask : Answering) (owner name : String) (given : List Value)
    (named : List (String × Value)) : Run Value := do
  let w ← world
  match owner, Builtin.memberKind? owner name, given with
  | "", _, _ => if named.isEmpty then function ask name given else unsuitable
  | "copyreg", _, cls :: given => do ask.call (← ask.read cls "__new__") (cls :: given) named
  | _, some .free, cls :: given =>
    if name = "__new__" then make owner cls given named else unsuitable
  | _, some .data, _ => unsuitable
  | _, some .ofClass, .cls c :: given =>
    if owner = "type" then ofType ask name c given named
    else if named.isEmpty then ofObject ask name (.cls c) given else unsuitable
  | _, some _, self :: given =>
    if w.isInstance self (.builtin owner) then ofValue ask owner name self given named
    else unsuitable
  | _, _, _ => unsuitable

end BuiltinCall

end DomainModel.Live
