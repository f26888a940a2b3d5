import DomainModel.Live.Making
import DomainModel.Module
import DomainModel.Text.Compatible
import DomainModel.Text.Keyword

/-!
# Loading

A module is loaded by its statements, one after the other: the errors of the value objects, the
classes with those of their variants, the synonyms, and the assignments that need all of these. Each
statement uses the names of the module as the statements before it have left them.
-/

namespace DomainModel.Live

open Run

namespace Loading

/-! ## Documentation -/

/-- The documentation that a literal in a class or in a method gives, once it is read back: the
literal moved to its place, without its quotes and its escapes. -/
def placedDoc (place : List Char → List Char) (docs : List String) : Option String :=
  if docs.isEmpty then none
  else
    let placed := (place (Docstring.encode (docs.map String.toList))).dropWhile (· = ' ')
    some (String.ofList (Docstring.decode (placed.drop 3)))

def classDoc (docs : List String) : Option String := placedDoc Lines.shift docs

def memberDoc (docs : List String) : Option String :=
  placedDoc (fun literal => Lines.shift (Lines.clearBlank (Lines.indent literal))) docs

def tryFromDoc (owner field error : String) : String :=
  "Validate ``" ++ field ++ "`` and wrap it in a new " ++ owner
    ++ ".\n\n        Raises:\n            " ++ error ++ ": ``validate`` rejected the value.\n        "

/-! ## Bodies of classes -/

inductive Item
  | constant (name : String) (v : Value)
  | annotations (entries : List (String × String))
  | method (f : Function)
  | accessor (f : Function)
  | setter (f : Function)
  | classMethod (f : Function)
  | same (owner name original : String)

/-- A function in the body of a class, with what its parameters and its result are said to be. -/
def function (owner name : String) (body : Body) (parameters : List (String × String))
    (result : String) (doc : Option String := none) : Function :=
  { owner, name, body, doc
    annotations := (parameters ++ [("return", result)]).map fun a => (a.1, .text a.2) }

def ofMember (owner : String) : Member → List Item
  | .accessor name annotation (.stored field) docs =>
    [.accessor (function owner name (.stored field) [] annotation (memberDoc docs))]
  | .accessor name annotation (.count field) docs =>
    [.accessor (function owner name (.count field) [] annotation (memberDoc docs))]
  | .property name annotation docs =>
    [.accessor (function owner name (.stored name) [] annotation (memberDoc docs)),
     .setter (function owner name (.store name) [("value", annotation)] "None")]
  | .equality cls field =>
    [.method (function owner "__eq__" (.fieldEquality cls field) [("other", "object")] "bool")]
  | .hash field => [.method (function owner "__hash__" (.fieldHash field) [] "int")]
  | .display field => [.method (function owner "__str__" (.fieldText field) [] "str")]
  | .clone cls field =>
    [.method (function owner "clone" (.clone field) [] cls), .same owner "__copy__" "clone"]
  | .tryFrom cls field annotation error =>
    [.classMethod (function owner "try_from" (.tryFrom field error) [(field, annotation)] cls
      (some (tryFromDoc cls field error)))]
  | .dispatch cls variants name annotation =>
    [.accessor (function owner name (.dispatch cls variants name) [] annotation)]

def docItems (docs : List String) : List Item :=
  (classDoc docs).toList.map fun d => .constant "__doc__" (.constant d)

def layoutItems (name : String) : Layout → List Item
  | .record fields assignable =>
    let names := fields.map (·.name)
    let annotations := fields.map fun f => (f.name, f.type.annotation)
    [.constant "__slots__" (.names (names.map slot)),
     .method (function name "__init__" (.recordInit names) annotations "None"),
     .method (function name "__repr__" (.recordRepr name names) [] "str")]
      ++ assignable.flatMap fun f => ofMember name (ClassPlan.fieldProperty f)
  | .sum variants payload =>
    let annotation := ClassPlan.payloadUnion variants
    [.annotations (("variants", "ClassVar[tuple[str, ...]]")
       :: variants.map fun v => (PrivateName.spell name v.name, "ClassVar[type[" ++ name ++ "]]")),
     .constant "__slots__" (.names [slot "payload"]),
     .constant "__match_args__" (.names ["payload"]),
     .constant "variants" (.names (variants.map (·.name))),
     .method (function name "__init__" (.sumInit name payload) [("payload", annotation)] "None"),
     .accessor (function name "payload" (.stored "payload") [] annotation),
     .method (function name "__repr__" .sumRepr [] "str"),
     .method (function name "__eq__" .payloadEquality [("other", "object")] "bool"),
     .method (function name "__hash__" .payloadHash [] "int")]

def variantItems (own : ClassRef) (name : String) (v : Variant) : List Item :=
  docItems v.docs ++ [.constant "__slots__" (.names []),
    .method (function name "__init__" (.variantInit own) [("payload", v.payload.annotation)] "None")]

/-- A dictionary of annotations; a name that is annotated twice is in it once. -/
def annotations (entries : List (String × String)) : Run Value :=
  BuiltinData.ofEntries (entries.foldl (fun es e => bindMember e.1 (.constant e.2) es) [])

def annotationsName : String := "__annotations__"

/-- What a name stands for in the body of a class, after what the body has bound. -/
def nameIn (owner : String) (members : List (String × Value)) (name : String) : Run Value :=
  match members.lookup name with
  | some v => return v
  | none => Run.globalIn owner name

/-- What a part of a body has bound, after what the parts before it have bound. -/
def runItem (ask : Answering) (members : List (String × Value)) :
    Item → Run (List (String × Value))
  | .constant name v => return bindMember name v members
  | .annotations entries => do
    return bindMember annotationsName (← annotations entries) members
  | .method f => return bindMember (f.spell f.name) (.function f) members
  | .accessor f => do
    let decorator ← nameIn f.owner members "property"
    let v ← if decorator = .cls (.builtin "property") then pure (.property f none)
      else ask.call decorator [.function f]
    return bindMember (f.spell f.name) v members
  | .setter f => do
    let v ← match ← nameIn f.owner members (f.spell f.name) with
      | .property getter _ => pure (.property getter (some f))
      | v => do ask.call (← ask.read v "setter") [.function f]
    return bindMember (f.spell f.name) v members
  | .classMethod f => do
    let decorator ← nameIn f.owner members "classmethod"
    let v ← if decorator = .cls (.builtin "classmethod") then pure (.classMethod f)
      else ask.call decorator [.function f]
    return bindMember (f.spell f.name) v members
  | .same owner name original => do
    return bindMember name (← nameIn owner members original) members

def builtinsName : String := "__builtins__"

def builtins : Value := .described "dict" "\x7b\x7d"

def defineClass (ask : Answering) (name : String) (bases : List String) (items : List Item) :
    Run Unit := do
  let bases ← bases.mapM Run.global
  if (← world).globals.lookup builtinsName ≠ some builtins then
    change fun w => { w with cutOff := name :: w.cutOff }
  let start := [("__module__", ← Run.global "__name__"), ("__qualname__", .constant name)]
  let members ← items.foldlM (runItem ask) start
  let c ← Making.make ask name bases members
  change (·.setGlobal name (.cls c))

/-! ## Statements -/

def defineError (ask : Answering) (e : ValueError) : Run Unit :=
  defineClass ask e.name [Contract.valueValidationError.text]
    [.constant "__doc__" (.constant ("Raised when " ++ e.owner ++ ".validate rejects a value."))]

def assignTo (ask : Answering) (name key : String) (v : Value) : Run Unit := do
  ask.assign (← Run.global name) key v

/-- The class of a variant, which is known as an attribute of the class of its sum. -/
def defineVariant (ask : Answering) (sum : String) (v : Variant) : Run Unit := do
  let name := ClassPlan.variantClass sum v
  let own ← Making.nextClass
  defineClass ask name [sum] (variantItems own name v)
  assignTo ask name "__name__" (.constant v.name)
  assignTo ask name "__qualname__" (.constant (sum ++ "." ++ v.name))
  assignTo ask sum v.name (← Run.global name)

/-- The class of a record or a sum, and those of its variants. -/
def definePlan (ask : Answering) (p : ClassPlan) : Run Unit := do
  defineClass ask p.name (p.bases.map (·.text))
    (docItems p.docs ++ layoutItems p.name p.layout ++ p.supplied.flatMap (ofMember p.name))
  p.variants.forM (defineVariant ask p.name)

def defineSynonym (s : Synonym) : Run Unit := do
  change (·.setGlobal s.name (.constant s.annotation))
  let noted ← Run.global annotationsName
  match noted, (← world).entries? noted with
  | .cell a, some entries =>
    let entries := World.putEntry (.constant s.name) (.constant "TypeAlias") entries
    change (·.update a (.dict entries))
  | _, _ => unsuitable

def assignEvents (ask : Answering) (owner events : String) : Run Unit := do
  assignTo ask owner Role.eventsArgument (← Run.global (Compatible.name events))

def imports : List (String × Value) :=
  [("__name__", .constant "generated"),
   ("__doc__", .constant "Generated domain model definitions."),
   ("__package__", .nothing), ("__loader__", .nothing), ("__spec__", .nothing),
   (builtinsName, builtins),
   ("annotations", .described "_Feature" "_Feature((3, 7, 0, 'beta', 1), None, 16777216)"),
   ("_copy", .described "module" "<module 'copy'>"),
   ("ClassVar", .described "_SpecialForm" "typing.ClassVar"),
   ("TypeAlias", .described "_SpecialForm" "typing.TypeAlias"),
   ("UUID", .cls (.builtin "UUID"))]
    ++ Contract.imported.map fun c => (c.text, .cls (.contract c))

def runModule (ask : Answering) (m : Module) : Run Unit := do
  change fun w => { w with globals := imports }
  if !m.synonyms.isEmpty then
    let noted ← annotations []
    change (·.setGlobal annotationsName noted)
  (m.classes.flatMap (·.errors)).forM (defineError ask)
  m.classes.forM (definePlan ask)
  m.synonyms.forM defineSynonym
  m.classes.forM fun p => p.events.forM (assignEvents ask p.name)

/-! ## Readable modules -/

/-- The reserved words that are values, and so may stand for one. -/
def constantWords : List String := ["False", "None", "True"]

def nameParts : List Char → List (List Char)
  | [] => [[]]
  | c :: cs =>
    if c = '.' then [] :: nameParts cs
    else
      match nameParts cs with
      | [] => [[c]]
      | part :: rest => (c :: part) :: rest

def isReadableName (name : String) : Bool :=
  match (nameParts name.toList).map String.ofList with
  | [] => false
  | first :: rest =>
    (!Keyword.isReserved first || first ∈ constantWords) && rest.all (!Keyword.isReserved ·)

/-- The reserved word that denies what stands behind it; the arguments of a type are a list, which can
be denied. -/
def denialWord : String := "not"

mutual

def isReadableType : TypeRef → Bool
  | ⟨name, args⟩ =>
    (isReadableName (TypeRef.targetName name) || (TypeRef.targetName name = denialWord && !args.isEmpty))
      && areReadableTypes args

def areReadableTypes : List TypeRef → Bool
  | [] => true
  | t :: ts => isReadableType t && areReadableTypes ts

end

/-- Whether types can be read as alternatives to each other. Only what comes first can be denied. -/
def areReadableAlternatives (types : List TypeRef) : Bool :=
  areReadableTypes types && types.tail.all (TypeRef.targetName ·.name ≠ denialWord)

/-- Whether a name can be given a meaning: one name is a constant, although it is no reserved word.
-/
def isBindable (name : String) : Bool := name ≠ "__debug__"

/-- Whether the layout of a class can be read: its names can be bound, those that fields are stored
under and those of the classes of its variants as well, and its parameters are different as the class
spells them. -/
def isReadableLayout (name : String) : Layout → Bool
  | .record fields _ =>
    areReadableTypes (fields.map (·.type))
      && fields.all (fun f => isBindable f.name && isBindable (slot f.name))
      && decide ((fields.map fun f => PrivateName.spell name f.name).Nodup)
  | .sum variants _ =>
    areReadableAlternatives (variants.map (·.payload))
      && variants.all fun v => isBindable v.name && isBindable (ClassPlan.variantClass name v)

/-- Whether a member can be read: a lone underscore cannot be the sum of a variant that is matched,
since it matches everything. -/
def isReadableMember : Member → Bool
  | .dispatch owner variants _ _ => owner ≠ "_" || variants.isEmpty
  | _ => true

/-- Whether the text of a class can be read: no reserved word stands where a name has to. -/
def isReadablePlan (p : ClassPlan) : Bool :=
  isBindable p.name && isReadableLayout p.name p.layout && p.supplied.all isReadableMember
    && p.events.all isReadableName

def isReadableModule (m : Module) : Bool :=
  m.classes.all isReadablePlan && m.synonyms.all (isBindable ·.name)

end Loading

/-- Loads a module. A text with a null character in it is no module, and the rest has to be readable
before any of it is run. -/
def World.load (m : Module) : Except Fault World :=
  if '\x00' ∈ m.text.toList then .error .badValue
  else if !Loading.isReadableModule m then .error (.raised .unreadable)
  else
    match Loading.runModule Request.answer m World.initial with
    | (.ok (), w) => .ok w
    | (.error f, _) => .error f

end DomainModel.Live
