import DomainModel.Live.Attribute

/-!
# Copying

A copy of a list has the same items. An instance is taken apart into what makes a new one and the
state that the new one is given, unless its class has a way of its own to be copied. What cannot
change is its own copy. A deep copy copies what a value holds as well, and each value once.
-/

namespace DomainModel.Live

open Run

namespace Copying

-- Sums mean the same under all imports.
attribute [local instance (high)] Zero.ofOfNat0

/-! ## Stored fields -/

/-- The names that a class notes for its stored fields: one, or some in a row. -/
def notedNames (w : World) (noted : Value) : Run (List String) := do
  let items ←
    match noted.text?, w.sequence? noted with
    | some s, _ => pure [.constant s]
    | none, some items => pure items
    | none, none => unsuitable
  items.mapM fun (x : Value) =>
    match x.text? with
    | some s => pure s
    | none => noAttribute

/-- The name under which a class notes the names of all stored fields of its instances. -/
def notes : String := "__slotnames__"

/-- The names of the stored fields of a class, in the order of its linearisation. They are noted in
the class as soon as they are asked for. -/
def fieldNames (c : ClassRef) : Run (List String) := do
  let w ← world
  match w.member? c notes with
  | some noted =>
    match w.items? noted with
    | some _ => notedNames w noted
    | none => unsuitable
  | none =>
    let names ← (w.linearize c).mapM fun k => do
      match w.member? k "__slots__" with
      | some noted =>
        let names ← notedNames w noted
        let names := names.filter fun n => n ≠ "__dict__" ∧ n ≠ "__weakref__"
        return names.map (PrivateName.spell (w.info k).name)
      | none => return []
    let noted ← allocate (.list (names.flatten.map Value.constant))
    change (·.adjust c (·.bind notes noted))
    return names.flatten

def countPlaces (w : World) (c : ClassRef) : Nat :=
  ((w.linearize c).map fun k => (w.info k).places.length).sum

def fields (ask : Answering) (v : Value) (names : List String) : Run (List (String × Value)) :=
  names.foldlM (fun found name => do
    match ← ask.read? v name with
    | some x => return bindMember name x found
    | none => return found) []

/-! ## Taking apart -/

/-- The state of an instance: its attributes, together with its stored fields if there are any. A
copy needs all of them to be noted, and no built-in value but the plainest has a whole state. -/
def defaultState (ask : Answering) (v : Value) (isWhole : Bool) : Run Value := do
  let w ← world
  let attributes ←
    if (w.attributes v).isEmpty then pure .nothing else BuiltinData.dictionary v
  let c := w.classOf v
  let names ← fieldNames c
  let isPartial := names.length < countPlaces w c ∨ w.isFixed c ∧ c ≠ .object
  if isWhole ∧ isPartial then unsuitable
  else
    let found ← fields ask v names
    if found.isEmpty then return attributes
    else tuple [attributes, ← BuiltinData.ofEntries found]

def isDefault (w : World) (v m : Value) (name : String) : Bool :=
  w.cell? m = some (.method v (.native "object" name))

/-- The state of an instance, by its class's own way of giving it if there is one. -/
def state (ask : Answering) (v : Value) (isWhole : Bool) : Run Value := do
  let m ← ask.read v "__getstate__"
  if isDefault (← world) v m "__getstate__" then defaultState ask v isWhole else ask.call m []

/-- What a new instance is made from, if its class says so. -/
def newArguments? (ask : Answering) (v : Value) : Run (Option (List Value)) := do
  match ← ask.read? v "__getnewargs_ex__" with
  | some m => do
    let _ ← ask.call m []
    unsuitable
  | none =>
    match ← ask.read? v "__getnewargs__" with
    | some m => do
      let given ← ask.call m []
      match (← world).tuple? given with
      | some items => return some items
      | none => unsuitable
    | none => return none

/-- What makes an instance again: a function, its arguments, and the state of the instance. -/
def parts (ask : Answering) (v : Value) : Run Value := do
  let c := (← world).classOf v
  let given ← newArguments? ask v
  let state ← state ask v given.isNone
  tuple [.native "copyreg" "__newobj__", ← tuple (.cls c :: given.getD []), state, .nothing,
    .nothing]

/-- The parts of an instance in an old form: there is none of a built-in value, nor of an instance
with stored fields. -/
def oldParts (ask : Answering) (v : Value) : Run Value := do
  let w ← world
  let isBuiltin := match v with
    | .cls _ => true
    | _ => w.isFixed (w.classOf v) && w.classOf v ≠ .object
  let hasFields ←
    match ← ask.read? v "__slots__" with
    | some slots => ask.isTrue slots
    | none => pure false
  if isBuiltin || hasFields then unsuitable else return .described "tuple" "(...)"

/-- Takes an instance apart, by its class's own way if there is one. -/
def takeApart (ask : Answering) (v : Value) (isOld : Bool) : Run Value := do
  let plain := if isOld then oldParts ask v else parts ask v
  match ← ask.read? v "__reduce__" with
  | some m =>
    let own ← ask.read (.cls ((← world).classOf v)) "__reduce__"
    if own = .native "object" "__reduce__" then plain else ask.call m []
  | none => plain

/-- An attribute of a value, which gives the value itself when it is read again. -/
def reading (v name : Value) : Run Value := do
  tuple [.native "" "getattr", ← tuple [v, name]]

/-! ## Putting together -/

def addAll (d other : Value) : Run Unit := do
  let w ← world
  match d, w.entries? d, w.entries? other with
  | .cell a, some entries, some more =>
    change (·.update a (.dict (more.foldl (fun es e => World.putEntry e.1 e.2 es) entries)))
  | _, _, _ => unsuitable

def assignState (ask : Answering) (x attributes fields : Value) : Run Unit := do
  if attributes ≠ .nothing then addAll (← ask.read x "__dict__") attributes
  if fields ≠ .nothing then
    match (← world).entries? fields with
    | none => noAttribute
    | some entries =>
      entries.forM fun e =>
        match e.1.text? with
        | some name => ask.assign x name e.2
        | none => unsuitable

/-- Gives an instance its state, by its own way of taking it if it has one. -/
def restore (ask : Answering) (x state : Value) : Run Unit := do
  if state = .nothing then return ()
  else
    match ← ask.read? x "__setstate__" with
    | some _ => do
      let _ ← ask.call (← ask.read x "__setstate__") [state]
    | none =>
      match (← world).tuple? state with
      | some [attributes, fields] => assignState ask x attributes fields
      | _ => assignState ask x state .nothing

/-- What the parts of a value make, with `inner` done to them before; a text stands for the value
itself. -/
def putTogether (ask : Answering) (v rest : Value) (inner : Value → Run Value)
    (note : Value → Run Unit) : Run Value := do
  let w ← world
  match rest.text?, w.sequence? rest with
  | some _, _ => return v
  | none, some (f :: given :: rest) =>
    if rest.length ≤ 3 then
      match w.sequence? given with
      | none => unsuitable
      | some given =>
        let x ← ask.call f (← given.mapM inner)
        note x
        restore ask x (← inner (rest.headD .nothing))
        return x
    else unsuitable
  | none, _ => unsuitable

def apart (ask : Answering) (v : Value) : Run Value := do
  match ← ask.read? v "__reduce_ex__" with
  | some .nothing | none =>
    match ← ask.read? v "__reduce__" with
    | some m => ask.call m []
    | none => ask.raise (.cls Standard.copyError) "un(shallow)copyable object"
  | some m => ask.call m [.integer 4 0]

/-! ## Copies -/

/-- Whether a value cannot change, so that it is its own copy. -/
def isConstant (w : World) (v : Value) : Bool :=
  match v, w.cell? v with
  | .slot _ _, _ | .classMethod _, _ => false
  | .described cls _, _ => cls ∉ ["module", "mappingproxy", "dict"]
  | _, some (.bytes _) | _, some (.hash _) | _, some (.method _ (.native _ _)) => true
  | _, some _ => false
  | _, none => true

def copy (ask : Answering) (v : Value) : Run Value := do
  let w ← world
  match w.cell? v with
  | some (.list items) => allocate (.list items)
  | some (.dict entries) => allocate (.dict entries)
  | some (.union alternatives) => allocate (.union alternatives)
  | some (.tuple _) => return v
  | _ =>
    if isConstant w v then return v
    else
      match ← ask.read? (.cls (w.classOf v)) "__copy__" with
      | some .nothing | none =>
        putTogether ask v (← apart ask v) (fun x => return x) (fun _ => return ())
      | some f => ask.call f [v]

/-! ## Deep copies -/

def note (memo v x : Value) : Run Unit := do
  let w ← world
  match memo, w.entries? memo with
  | .cell a, some entries => change (·.update a (.dict (entries ++ [(v, x)])))
  | _, _ => return ()

def noted? (w : World) (memo v : Value) : Option Value :=
  ((w.entries? memo).getD []).lookup v

def deepen (ask : Answering) (v memo : Value) : Run Value := do
  let w ← world
  let inner (x : Value) : Run Value := ask (.deepCopy x memo)
  match w.cell? v with
  | some (.list items) => do
    let x ← allocate (.list [])
    note memo v x
    items.forM fun item => do
      let y ← inner item
      match x, (← world).items? x with
      | .cell a, some ys => change (·.update a (.list (ys ++ [y])))
      | _, _ => unsuitable
    return x
  | some (.dict entries) => do
    let x ← allocate (.dict [])
    note memo v x
    entries.forM fun e => do
      let key ← inner e.1
      let y ← inner e.2
      match x, (← world).entries? x with
      | .cell a, some es => change (·.update a (.dict (World.putEntry key y es)))
      | _, _ => unsuitable
    return x
  | some (.tuple items) => do
    let copies ← items.mapM inner
    match noted? (← world) memo v with
    | some x => return x
    | none => if copies = items then return v else tuple copies
  | some (.method self f) => allocate (.method (← inner self) f)
  | some (.union alternatives) => allocate (.union alternatives)
  | _ =>
    match ← ask.read? v "__deepcopy__" with
    | some .nothing | none => putTogether ask v (← apart ask v) inner (note memo v)
    | some m => ask.call m [memo]

def deepCopy (ask : Answering) (v memo : Value) : Run Value := do
  let w ← world
  match noted? w memo v with
  | some x => return x
  | none =>
    if isConstant w v then return v
    else
      let x ← deepen ask v memo
      if x ≠ v ∧ (noted? (← world) memo v).isNone then note memo v x
      return x

end Copying

end DomainModel.Live
