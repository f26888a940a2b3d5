import DomainModel.Live.ContractClass
import DomainModel.Text.PrivateName

/-!
# Worlds

A world is what a module has made so far: its classes, what its names stand for, and the cells of
the lists and instances. A name is looked up along the linearisation of a class, and the first class
that binds it wins.
-/

namespace DomainModel.Live

structure World where
  classes : List (ClassRef × ClassInfo)
  globals : List (String × Value) := []
  cells : List Cell := []
  /-- The classes that were made after the module had given the built-in names' own name another
  meaning: in their bodies, and to their functions, these names stand for nothing. -/
  cutOff : List String := []
  copies : Nat := 1
  shown : List Nat := []
  named : List (String × Value) := []
  /-- What was made for a value, under a name, when it was first asked for. -/
  kept : List ((Value × String) × Value) := []
  /-- Abstract classes and the classes that they were told to count as their own. -/
  registered : List (ClassRef × ClassRef) := []
deriving Repr, DecidableEq

namespace World

/-- The world before a module: there are only the standard classes and the contracts. -/
def initial : World :=
  { classes := Standard.classes ++ Contract.all.map fun c => (.contract c, Contract.info c)
    cells := Contract.annotationCells }

/-! ## Classes -/

def info (w : World) (c : ClassRef) : ClassInfo :=
  match w.classes.lookup c with
  | some i => i
  | none =>
    match c with
    | .builtin name => .builtin name
    | .contract _ | .made _ => .builtin "object"

def isFixed (w : World) (c : ClassRef) : Bool := (w.classes.lookup c).isNone

def linearize (w : World) (c : ClassRef) : List ClassRef := (w.info c).linearization

def member? (w : World) (c : ClassRef) (name : String) : Option Value :=
  match w.classes.lookup c, c with
  | some i, _ => i.member? name
  | none, .builtin cls => Builtin.member? cls name
  | none, .contract _ | none, .made _ => none

def firstMember? (w : World) (classes : List ClassRef) (name : String) : Option Value :=
  classes.findSome? (w.member? · name)

/-- What a class binds to a name, itself or through the classes it builds on. -/
def bound? (w : World) (c : ClassRef) (name : String) : Option Value :=
  w.firstMember? (w.linearize c) name

/-- What the classes behind a class bind to a name, in the linearisation of another class. -/
def boundBehind? (w : World) (c own : ClassRef) (name : String) : Option Value :=
  w.firstMember? (((w.linearize c).dropWhile (· ≠ own)).drop 1) name

def isSubclass (w : World) (c base : ClassRef) : Bool := base ∈ w.linearize c

/-- The classes that build on a class directly, in the order in which they were made. -/
def subclasses (w : World) (c : ClassRef) : List ClassRef :=
  (w.classes.filter fun e => c ∈ e.2.bases).map (·.1)

/-- Changes what is known of a class; a class that is fixed stays as it is. -/
def adjust (w : World) (c : ClassRef) (f : ClassInfo → ClassInfo) : World :=
  { w with classes := w.classes.map fun e => if e.1 = c then (c, f e.2) else e }

def home? (w : World) (c : ClassRef) : Option String :=
  match w.classes.lookup c, c with
  | none, .builtin name => some (Builtin.home name)
  | _, _ => (w.member? c "__module__").bind Value.text?

/-- The name of a class behind that of its module. The module of the built-in classes is left out,
and so is one that has no name. -/
def pathOf (w : World) (c : ClassRef) : String :=
  match w.home? c with
  | none => (w.info c).name
  | some home =>
    if home = "builtins" then (w.info c).name else home ++ "." ++ (w.info c).qualname

def shownClass (w : World) (c : ClassRef) : String := "<class '" ++ w.pathOf c ++ "'>"

/-! ## Values -/

def cell? (w : World) : Value → Option Cell
  | .cell a => w.cells[a]?
  | _ => none

def kindOf (w : World) (c : ClassRef) : ClassRef :=
  .builtin (if (w.info c).isAbstractKind then "ABCMeta" else "type")

def kindOfNative (owner name : String) : String :=
  match Builtin.memberKind? owner name with
  | some .operator => "wrapper_descriptor"
  | some .method => "method_descriptor"
  | some .data => if Builtin.isPlace owner name then "member_descriptor" else "getset_descriptor"
  | some .ofClass => "classmethod_descriptor"
  | some .free | none => "builtin_function_or_method"

def kindOfMethod : (function : Value) → String
  | .native owner name =>
    if Builtin.memberKind? owner name = some .operator then "method-wrapper"
    else "builtin_function_or_method"
  | _ => "method"

def classOfCell : Cell → ClassRef
  | .list _ => .builtin "list"
  | .tuple _ => .builtin "tuple"
  | .dict _ => .builtin "dict"
  | .bytes _ => .builtin "bytes"
  | .object c _ _ => c
  | .method _ f => .builtin (kindOfMethod f)
  | .union _ => .builtin "UnionType"
  | .hash _ => .builtin "int"

def classOf (w : World) (v : Value) : ClassRef :=
  match v with
  | .nothing => .builtin "NoneType"
  | .undecided => .builtin "NotImplementedType"
  | .truth _ => .builtin "bool"
  | .integer _ _ => .builtin "int"
  | .text _ _ => .builtin "str"
  | .names _ => .builtin "tuple"
  | .nameSet _ => .builtin "frozenset"
  | .cls c => w.kindOf c
  | .function _ => .builtin "function"
  | .property _ _ => .builtin "property"
  | .classMethod _ => .builtin "classmethod"
  | .slot _ _ => .builtin "member_descriptor"
  | .native owner name => .builtin (kindOfNative owner name)
  | .described c _ => .builtin c
  | .cell a => (w.cells[a]?.map classOfCell).getD .object

/-- Whether a value is an instance of a class, by the class that it was made by. -/
def isInstance (w : World) (v : Value) (c : ClassRef) : Bool := w.isSubclass (w.classOf v) c

def slot? (w : World) (v : Value) (place : ClassRef × String) : Option Value :=
  match w.cell? v with
  | some (.object _ slots _) => slots.lookup place
  | _ => none

def items? (w : World) (v : Value) : Option (List Value) :=
  match w.cell? v with
  | some (.list items) => some items
  | _ => none

def tuple? (w : World) (v : Value) : Option (List Value) :=
  match v, w.cell? v with
  | .names ns, _ => some (ns.map Value.constant)
  | _, some (.tuple items) => some items
  | _, _ => none

def entries? (w : World) (v : Value) : Option (List (Value × Value)) :=
  match w.cell? v with
  | some (.dict entries) => some entries
  | _ => none

def bytes? (w : World) (v : Value) : Option (List Nat) :=
  match w.cell? v with
  | some (.bytes bs) => some bs
  | _ => none

def sequence? (w : World) (v : Value) : Option (List Value) :=
  match v, w.cell? v with
  | .text s _, _ => some (s.toList.map fun c => .constant (String.singleton c))
  | .names ns, _ | .nameSet ns, _ => some (ns.map Value.constant)
  | _, some (.list items) | _, some (.tuple items) => some items
  | _, some (.dict entries) => some (entries.map (·.1))
  | _, some (.bytes bs) => some (bs.map fun (n : Nat) => .integer n 0)
  | _, _ => none

def update (w : World) (a : Nat) (c : Cell) : World := { w with cells := w.cells.set a c }

/-- Stores a value in an association; a key that is there already keeps its place. -/
def putSlot (place : ClassRef × String) (x : Value) :
    List ((ClassRef × String) × Value) → List ((ClassRef × String) × Value)
  | [] => [(place, x)]
  | s :: ss => if s.1 = place then (place, x) :: ss else s :: putSlot place x ss

def setSlot (w : World) (v : Value) (place : ClassRef × String) (x : Value) : World :=
  match v, w.cell? v with
  | .cell a, some (.object c slots attributes) =>
    w.update a (.object c (putSlot place x slots) attributes)
  | _, _ => w

def clearSlot (w : World) (v : Value) (place : ClassRef × String) : World :=
  match v, w.cell? v with
  | .cell a, some (.object c slots attributes) =>
    w.update a (.object c (slots.filter (·.1 ≠ place)) attributes)
  | _, _ => w

/-! ## Dictionaries -/

def sameKey (a b : Value) : Bool :=
  match a, b, a.number?, b.number? with
  | .text s _, .text t _, _, _ => s = t
  | _, _, some m, some n => m = n
  | _, _, _, _ => a = b

def keyed? (entries : List (Value × Value)) (key : Value) : Option Value :=
  (entries.find? fun e => sameKey e.1 key).map (·.2)

/-- Stores a value under a key; a key that is there already keeps its place. -/
def putEntry (key x : Value) : List (Value × Value) → List (Value × Value)
  | [] => [(key, x)]
  | e :: es => if sameKey e.1 key then (e.1, x) :: es else e :: putEntry key x es

def dropEntry (key : Value) (entries : List (Value × Value)) : List (Value × Value) :=
  entries.filter fun e => !sameKey e.1 key

/-- The attributes that an instance holds besides its stored fields, or a function besides what every
function has. -/
def attributes (w : World) (v : Value) : List (Value × Value) :=
  match v, w.cell? v with
  | _, some (.object _ _ (some a)) => (w.entries? (.cell a)).getD []
  | .function _, _ => ((w.kept.lookup (v, "__dict__")).bind w.entries?).getD []
  | _, _ => []

/-- An attribute that an instance holds itself. A class holds what it binds, and a module what its
names stand for. -/
def attribute? (w : World) (v : Value) (name : String) : Option Value :=
  match v with
  | .cls c => w.member? c name
  | .described "module" _ => Standard.copyMembers.lookup name
  | .described "_Feature" _ => Standard.featureMembers.lookup name
  | .described "SafeUUID" _ => Standard.safetyMembers.lookup name
  | _ => keyed? (w.attributes v) (.constant name)

/-! ## Names -/

def global? (w : World) (name : String) : Option Value :=
  (w.globals.lookup name).or (Builtin.value? name)

/-- What a name stands for as an attribute of the module. Two names belong to every module. -/
def moduleMember? (w : World) (name : String) : Option Value :=
  match name with
  | "__class__" => some (.cls (.builtin "module"))
  | "__dict__" => some (.described "dict" "\x7b...\x7d")
  | _ => w.globals.lookup name

def setGlobal (w : World) (name : String) (v : Value) : World :=
  { w with globals := bindMember name v w.globals }

end World

end DomainModel.Live
