import DomainModel.Live.Machine

/-!
# Making classes

A class is made of its name, the classes it builds on, and what its body binds. It is refused if its
bases do not go together, or if a stored field has the name of something that the body binds.
-/

namespace DomainModel.Live

open Run

namespace Making

/-! ## Stored fields -/

/-- The places that a class adds to its instances. -/
structure Places where
  names : List String := []
  attributes : Bool := false
  references : Bool := false

/-- Adds a place. Those for attributes and for references are special, and there can be only one of
each. -/
def Places.add (members : List (String × Value)) (inherited : ClassInfo) (p : Places)
    (name : String) : Except Fault Places :=
  if name = "__dict__" then
    if inherited.holdsAttributes ∨ p.attributes then .error .unsuitable
    else .ok { p with attributes := true }
  else if name = "__weakref__" then
    if inherited.holdsReferences ∨ p.references then .error .unsuitable
    else .ok { p with references := true }
  else if (members.lookup name).isSome ∧ name ≠ "__qualname__" ∧ name ≠ "__classcell__" then
    .error .badValue
  else .ok { p with names := p.names ++ [name] }

/-- The places that a body asks for. A class whose body says nothing of them holds any attribute. -/
def places (name : String) (members : List (String × Value)) (inherited : ClassInfo) :
    Except Fault Places :=
  match members.lookup "__slots__" with
  | none => .ok { attributes := !inherited.holdsAttributes, references := !inherited.holdsReferences }
  | some (.names ns) =>
    (ns.map (PrivateName.spell name)).foldlM (Places.add members inherited) {}
  | some _ => .error .unsuitable

def bindNew (name : String) (v : Value) (members : List (String × Value)) : List (String × Value) :=
  if (members.lookup name).isSome then members else members ++ [(name, v)]

def complete (own : ClassRef) (p : Places) (members : List (String × Value)) :
    List (String × Value) :=
  let members := members.filter (·.1 ≠ "__qualname__")
  let members := p.names.foldl (fun ms n => bindNew n (.slot own n) ms) members
  let members := if p.attributes then bindNew "__dict__" (.native "instance" "__dict__") members
    else members
  let members :=
    if p.references then bindNew "__weakref__" (.native "instance" "__weakref__") members
    else members
  let members := bindNew "__doc__" .nothing members
  if (members.lookup "__eq__").isSome then bindNew "__hash__" .nothing members else members

/-! ## Members to be supplied -/

def saidRequired (w : World) (c : ClassRef) : Except Fault (List String) :=
  match w.member? c "__abstractmethods__" with
  | none => .ok []
  | some (.nameSet ns) => .ok ns
  | some v =>
    match (w.sequence? v).bind (·.mapM Value.text?) with
    | some ns => .ok ns
    | none => .error .unsuitable

/-- The names that a class leaves to be supplied, in order: those that its body binds so, and those
of its bases that are still bound so. -/
def required (w : World) (bases line : List ClassRef) (members : List (String × Value)) :
    Except Fault (List String) := do
  let own := (members.filter (·.2.isRequired)).map (·.1)
  let inherited := (← bases.mapM (saidRequired w)).flatten.filter fun n =>
    (((members.lookup n).or (w.firstMember? line n)).map Value.isRequired).getD false
  return ((own ++ inherited).eraseDups).mergeSort fun a b => decide (a ≤ b)

/-! ## Classes -/

/-- What a class with these bases is, from what its body binds. -/
def info (w : World) (own : ClassRef) (name : String) (bases : List ClassRef)
    (members : List (String × Value)) : Except Fault ClassInfo := do
  let some lead := Bases.lead? w bases | throw .unsuitable
  let isAbstractKind := bases.any fun b => (w.info b).isAbstractKind
  let inherited : ClassInfo :=
    { name, qualname := name, bases, lead, linearization := [], members := []
      holdsAttributes := bases.any fun b => (w.info b).holdsAttributes
      holdsReferences := bases.any fun b => (w.info b).holdsReferences }
  let p ← places name members inherited
  if '\x00' ∈ name.toList then throw .badValue
  let some qualname := (((members.lookup "__qualname__").getD (.constant name)).text?)
    | throw .unsuitable
  if (members.lookup "__classcell__").isSome then throw .unsuitable
  let some line := Bases.linearize? w bases | throw .unsuitable
  let missing ← if isAbstractKind then required w bases line members else pure []
  let i : ClassInfo :=
    { name, qualname, bases, lead, linearization := own :: line, isAbstractKind
      members := complete own p members
      layout := if p.names.isEmpty then (w.info lead).layout else own
      places := p.names
      addsAttributes := p.attributes
      addsReferences := p.references
      holdsAttributes := inherited.holdsAttributes || p.attributes
      holdsReferences := inherited.holdsReferences || p.references }
  if isAbstractKind then
    let i := (i.bind "__abstractmethods__" (.nameSet missing)).bind Standard.registryName
      Standard.registry
    return { i with isIncomplete := !missing.isEmpty }
  else return i

def nextClass : Run ClassRef := do return .made (← world).classes.length

/-- Tells the classes behind a new class that there is one more class that builds on them. -/
def announce (ask : Answering) (c : ClassRef) : Run Unit := do
  match (← world).boundBehind? c c "__init_subclass__" with
  | some (.native _ _) | none => return ()
  | some d => do let _ ← ask.call (← Attribute.bindToClass ask c d) []

def make (ask : Answering) (name : String) (bases : List Value) (members : List (String × Value)) :
    Run ClassRef := do
  let refs ← bases.mapM fun (b : Value) =>
    match b with
    | .cls c => if Builtin.closed.any (fun n => c = .builtin n) then unsuitable else pure c
    | _ => unsuitable
  let refs := if refs.isEmpty then [.object] else refs
  let own ← nextClass
  match info (← world) own name refs members with
  | .error f => throw f
  | .ok i => do
    change fun w => { w with classes := w.classes ++ [(own, i)] }
    announce ask own
    return own

end Making

end DomainModel.Live
