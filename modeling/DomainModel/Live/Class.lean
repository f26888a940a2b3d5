import DomainModel.Live.BuiltinDoc

/-!
# Classes

A class binds values to names. It stands before the classes it builds on in its linearisation, along
which its attributes are looked up.
-/

namespace DomainModel.Live

structure ClassInfo where
  name : String
  qualname : String
  bases : List ClassRef
  /-- The class whose instances those of this one extend. -/
  lead : ClassRef := .object
  /-- The class and the classes it builds on, each before those that it builds on itself. -/
  linearization : List ClassRef
  /-- Whether it is known which members a derived class still has to supply. -/
  isAbstractKind : Bool := false
  /-- Whether there are such members, so that the class cannot be constructed. -/
  isIncomplete : Bool := false
  members : List (String × Value)
  /-- The class whose instances have a place for every stored field that instances of this one have.
  -/
  layout : ClassRef := .object
  places : List String := []
  /-- Whether the class adds a place for other attributes, and one for references. -/
  addsAttributes : Bool := false
  addsReferences : Bool := false
  /-- Whether instances hold attributes besides their stored fields. -/
  holdsAttributes : Bool := false
  holdsReferences : Bool := false
deriving Repr, DecidableEq

/-- Binds a name; a name that is bound already keeps its place. -/
def bindMember (name : String) (v : Value) : List (String × Value) → List (String × Value)
  | [] => [(name, v)]
  | m :: ms => if m.1 = name then (name, v) :: ms else m :: bindMember name v ms

theorem lookup_bindMember_self (name : String) (v : Value) (ms : List (String × Value)) :
    (bindMember name v ms).lookup name = some v := by
  induction ms with
  | nil => simp [bindMember]
  | cons m ms ih =>
    obtain ⟨n, x⟩ := m
    simp only [bindMember]
    split
    · simp
    · next h => simp [List.lookup_cons, beq_false_of_ne (Ne.symm h), ih]

theorem lookup_bindMember_of_ne {name other : String} (h : other ≠ name) (v : Value)
    (ms : List (String × Value)) : (bindMember name v ms).lookup other = ms.lookup other := by
  induction ms with
  | nil => simp [bindMember, List.lookup_cons, beq_false_of_ne h]
  | cons m ms ih =>
    obtain ⟨n, x⟩ := m
    simp only [bindMember]
    split
    · next hn => subst hn; simp [List.lookup_cons, beq_false_of_ne h]
    · simp only [List.lookup_cons, ih]

def ClassInfo.member? (c : ClassInfo) (name : String) : Option Value := c.members.lookup name

def ClassInfo.bind (c : ClassInfo) (name : String) (v : Value) : ClassInfo :=
  { c with members := bindMember name v c.members }

def ClassInfo.unbind (c : ClassInfo) (name : String) : ClassInfo :=
  { c with members := c.members.filter (·.1 ≠ name) }

def Body.isRequired : Body → Bool
  | .required _ | .requiredRule => true
  | _ => false

def Value.isRequired : Value → Bool
  | .function f | .property f _ | .classMethod f => f.body.isRequired
  | _ => false

/-! ## Built-in classes -/

def Builtin.member? (cls name : String) : Option Value :=
  if (memberKind? cls name).isSome then some (.native cls name)
  else if name = "__doc__" then some (Value.constant? (doc? cls))
  else if name = "__hash__" ∧ (cls = "list" ∨ cls = "dict") then some .nothing
  else none

def Builtin.isData (cls name : String) : Bool := memberKind? cls name = some .data

def ClassInfo.builtin (name : String) : ClassInfo :=
  let isError := name = "BaseException" ∨ Builtin.isException name
  let parent : ClassRef := .builtin (Builtin.parent name)
  { name, qualname := name
    bases := if name = "object" then [] else [parent]
    lead := parent
    linearization := Builtin.ancestors name
    members := []
    layout := if isError then .builtin "BaseException" else .builtin name
    holdsAttributes := isError ∨ name = "function" }

end DomainModel.Live
