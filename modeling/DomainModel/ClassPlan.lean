import DomainModel.Fragment

/-!
# Class plans

The plan of a generated class: the layout of its instances, the members its roles supply, and what
goes before and after it. A plan is an error if two roles supply one member, or if a name that is
bound on the class after its body is taken by a member.
-/

namespace DomainModel

inductive Layout
  /-- Every field is stored; `assignable` are the fields that get a property. -/
  | record (fields assignable : List Field)
  /-- The payload is stored, and meets the contract if there is one. -/
  | sum (variants : List Variant) (payload : Option Contract)
deriving Repr, DecidableEq

structure ClassPlan where
  name : String
  bases : List Contract
  docs : List String
  layout : Layout
  supplied : List Member
  errors : List ValueError
  /-- The sums of events that are assigned to the class once all classes exist. -/
  events : List String
deriving Repr, DecidableEq

namespace ClassPlan

/-! ## Source -/

/-- Names in quotes; a single one has a comma behind it. -/
def tuple (names : List String) : String :=
  let quoted := ", ".intercalate (names.map fun n => "\"" ++ n ++ "\"")
  "(" ++ quoted ++ (if names.length = 1 then "," else "") ++ ")"

def block (lines : List String) : String := "\n".intercalate lines

def slotsLine (names : List String) : String := "__slots__ = " ++ tuple names

def recordInit (fields : List Field) : String :=
  if fields.isEmpty then block ["def __init__(self) -> None:", "    pass"]
  else
    let parameters := ", ".intercalate (fields.map fun f => f.name ++ ": " ++ f.type.annotation)
    block (("def __init__(self, *, " ++ parameters ++ ") -> None:")
      :: fields.map fun f => "    self." ++ slot f.name ++ " = " ++ f.name)

def recordRepr (name : String) (fields : List Field) : String :=
  let parts := ", ".intercalate
    (fields.map fun f => f.name ++ "=\x7bself." ++ slot f.name ++ "!r\x7d")
  block ["def __repr__(self) -> str:", "    return f\"" ++ name ++ "(" ++ parts ++ ")\""]

def fieldProperty (f : Field) : Member := .property f.name f.type.annotation f.docs

def payloadUnion (variants : List Variant) : String :=
  if variants.isEmpty then "object"
  else " | ".intercalate (variants.map fun v => v.payload.annotation)

def sumHeader (name : String) (variants : List Variant) : String :=
  block ([slotsLine ["_payload"], "__match_args__ = (\"payload\",)",
      "variants: ClassVar[tuple[str, ...]] = " ++ tuple (variants.map (·.name))]
    ++ variants.map fun v => v.name ++ ": ClassVar[type[" ++ name ++ "]]")

def payloadCheck (contract : Contract) : List String :=
  ["    if not isinstance(payload, " ++ contract.text ++ "):",
   "        raise TypeError(",
   "            f\"\x7btype(self).__qualname__\x7d payload must be a " ++ contract.text ++ ", \"",
   "            f\"got \x7btype(payload).__name__\x7d\"",
   "        )"]

def sumInit (name : String) (variants : List Variant) (payload : Option Contract) : String :=
  block (["def __init__(self, payload: " ++ payloadUnion variants ++ ") -> None:",
      "    if type(self) is " ++ name ++ ":",
      "        raise TypeError(\"" ++ name ++ " must be constructed through one of its variants\")"]
    ++ payload.toList.flatMap payloadCheck
    ++ ["    self._payload = payload"])

def sumPayload (variants : List Variant) : String :=
  block ["@property", "def payload(self) -> " ++ payloadUnion variants ++ ":",
    "    return self._payload"]

def sumRepr : String :=
  block ["def __repr__(self) -> str:",
    "    return f\"\x7btype(self).__qualname__\x7d(\x7bself._payload!r\x7d)\""]

def sumEquality : String :=
  block ["def __eq__(self, other: object) -> bool:", "    if type(other) is not type(self):",
    "        return NotImplemented", "    return self._payload == other._payload"]

def sumHash : String :=
  block ["def __hash__(self) -> int:",
    "    return hash((type(self).__qualname__, self._payload))"]

def layoutSources (name : String) : Layout → List String
  | .record fields assignable =>
    [slotsLine (fields.map fun f => slot f.name), recordInit fields, recordRepr name fields]
      ++ assignable.map fun f => Member.tidy (fieldProperty f).source
  | .sum variants payload =>
    [sumHeader name variants, sumInit name variants payload, sumPayload variants, sumRepr,
     sumEquality, sumHash]

def body (p : ClassPlan) : List String :=
  layoutSources p.name p.layout ++ p.supplied.map fun m => Member.tidy m.source

def shifted (source : String) : String := String.ofList (Lines.shift source.toList)

/-- The documentation of a class, and the empty line after it. -/
def docLines (docs : List String) : List String :=
  if docs.isEmpty then [] else [shifted (Docstring.text docs), ""]

/-- The name of the class of a variant in the module; outside it is known as the sum's attribute. -/
def variantClass (name : String) (v : Variant) : String := "_" ++ name ++ v.name

def variantLines (name : String) (v : Variant) : List String :=
  let own := variantClass name v
  ["class " ++ own ++ "(" ++ name ++ "):"]
    ++ docLines v.docs
    ++ ["    __slots__ = ()", "",
      "    def __init__(self, payload: " ++ v.payload.annotation ++ ") -> None:",
      "        super().__init__(payload)", "", "",
      own ++ ".__name__ = \"" ++ v.name ++ "\"",
      own ++ ".__qualname__ = \"" ++ name ++ "." ++ v.name ++ "\"",
      name ++ "." ++ v.name ++ " = " ++ own]

def variants (p : ClassPlan) : List Variant :=
  match p.layout with
  | .record _ _ => []
  | .sum variants _ => variants

def headLine (p : ClassPlan) : String :=
  let bases := if p.bases.isEmpty then "" else "(" ++ ", ".intercalate (p.bases.map (·.text)) ++ ")"
  "class " ++ p.name ++ bases ++ ":"

def lines (p : ClassPlan) : List String :=
  [p.headLine] ++ docLines p.docs ++ p.body.map shifted ++ p.variants.flatMap (variantLines p.name)

def epilogue (p : ClassPlan) : List String := p.events.map (Fragment.eventsLine p.name)

/-! ## Planning -/

structure Supplied where
  member : Member
  directive : Directive

def Supplied.name (s : Supplied) : String := s.member.name

def addMember (d : Declaration) (taken : List Supplied) (s : Supplied) :
    Except Diagnostic (List Supplied) :=
  if s.name ∈ taken.map Supplied.name then
    .error (.report d s.directive (.repeatedMember s.name))
  else .ok (taken ++ [s])

def merge (d : Declaration) (fragments : List Fragment) : Except Diagnostic (List Supplied) :=
  (fragments.flatMap fun f => f.members.map (⟨·, f.directive⟩)).foldlM (addMember d) []

def sumMembers : List String := ["payload", "variants"]

/-- The names that are bound on the class after its body, each with its directive if it has one. -/
def assignedNames (shape : Shape) (fragments : List Fragment) :
    List (String × Option Directive) :=
  fragments.flatMap (fun f => f.assigned.map (·, some f.directive)) ++
    match shape with
    | .record _ => []
    | .sum variants => variants.map fun v => (v.name, none)

def takenNames (shape : Shape) (members : List Supplied) : List String :=
  members.map Supplied.name ++
    match shape with
    | .record fields => (fields.filter Field.isExposed).map (·.name)
    | .sum _ => sumMembers

/-- The first collision is reported for the directive that supplies the member, or else for the one
that binds the name. -/
def checkAssigned (d : Declaration) (members : List Supplied) (taken : List String)
    (assigned : List (String × Option Directive)) : Except Diagnostic Unit :=
  match assigned.find? fun (name, _) => name ∈ taken with
  | none => .ok ()
  | some (name, directive) =>
    let owner := (members.find? (·.name = name)).map (·.directive)
    .error (.report d (owner.or directive) (.collidingMember name))

/-- The layout of a class: a public field has a property unless a role claims its name. -/
def layOut (shape : Shape) (claimed : List String) (payload : Option Contract) : Layout :=
  match shape with
  | .record fields => .record fields (fields.filter fun f => f.isExposed ∧ f.name ∉ claimed)
  | .sum variants => .sum variants payload

def fragments (d : Declaration) : Except Diagnostic (List Fragment) := do
  let roles ← d.check
  roles.mapM fun a => a.fragment.mapError (.report d a.directive)

def ofDeclaration (d : Declaration) : Except Diagnostic ClassPlan := do
  let descriptor ← d.describe.mapError (.report d none)
  let fragments ← fragments d
  let members ← merge d fragments
  checkAssigned d members (takenNames descriptor.shape members)
    (assignedNames descriptor.shape fragments)
  let claimed := members.map Supplied.name ++ fragments.flatMap (·.reserved)
  return { name := d.name
           bases := (fragments.map (·.base)).eraseDups
           docs := descriptor.docs
           layout := layOut descriptor.shape claimed (fragments.findSome? (·.payload))
           supplied := members.map (·.member)
           errors := fragments.filterMap (·.error)
           events := fragments.filterMap (·.events) }

end ClassPlan

end DomainModel
