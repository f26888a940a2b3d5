import DomainModel.Live.Assigning
import DomainModel.Text.Identification

/-!
# Identifiers

What the functions of identifiers do. An identifier holds its number, and what is known of the way
in which it was made; all else is made of the number.
-/

namespace DomainModel.Live

open Run

namespace Identifier

-- Powers mean the same under all imports.
attribute [local instance (high)] instPowNat

def cls : ClassRef := .builtin "UUID"

def make (c : ClassRef) (n : Value) : Run Value :=
  allocate (.object c
    [(identifierSlot "int", n), (identifierSlot "is_safe", Standard.unknownSafety)] none)

def numberOf (ask : Answering) (self : Value) : Run Int := do
  match (← ask.read self "int").number? with
  | some n => return n
  | none => unsuitable

def part (ask : Answering) (self : Value) (name : String) : Run Value := do
  if name = "urn" then text ("urn:uuid:" ++ (← ask.textOf self))
  else
    let n ← numberOf ask self
    let bits := Identification.bits n
    match name with
    | "hex" => text (String.ofList (Identification.digits n))
    | "version" =>
      match Identification.version? n with
      | some v => integer v
      | none => return .nothing
    | "variant" => return .constant (Identification.variant n)
    | "fields" => tuple (← (Identification.fields n).mapM fun (f : Int) => integer f)
    | "time_low" => integer (bits 0 32)
    | "time_mid" => integer (bits 32 16)
    | "time_hi_version" => integer (bits 48 16)
    | "clock_seq_hi_variant" => integer (bits 64 8)
    | "clock_seq_low" => integer (bits 72 8)
    | "clock_seq" => integer (bits 66 14)
    | "node" => integer (bits 80 48)
    | "time" => integer (Identification.time n)
    | "bytes" | "bytes_le" =>
      if Identification.isInRange n then
        let bs := Identification.bytes n
        allocate (.bytes (if name = "bytes" then bs else Identification.swap bs))
      else fail .tooLarge
    | _ => noAttribute

/-! ## Making identifiers -/

def ofText (x : Value) : Run Int := do
  match x, (← world).bytes? x with
  | .text s _, _ =>
    match Identification.ofText? s with
    | some n => return n
    | none => fail .badValue
  | _, some _ => unsuitable
  | _, none => noAttribute

def sixteen (ask : Answering) (x : Value) : Run (List Value) := do
  let w ← world
  match w.sequence? x with
  | some items => if items.length = 16 then return items else fail .badValue
  | none =>
    match ← Attribute.bySpecial? ask x "__len__" with
    | some n => if n.number? = some 16 then unsuitable else fail .badValue
    | none => unsuitable

/-- The number that sixteen bytes denote; nothing else has bytes. -/
def ofBytes (ask : Answering) (x : Value) (isSwapped : Bool) : Run Int := do
  let _ ← sixteen ask x
  match (← world).bytes? x, x with
  | some bs, _ => return Identification.ofBytes (if isSwapped then Identification.swap bs else bs)
  | none, .nameSet _ => if isSwapped then unsuitable else fail .broken
  | none, _ => fail .broken

def field (width : Nat) (x : Value) : Run Int :=
  match x.number? with
  | some n => if 0 ≤ n ∧ n < 2 ^ width then return n else fail .badValue
  | none => unsuitable

def ofFields (x : Value) : Run Int := do
  match (← world).sequence? x with
  | none => unsuitable
  | some items =>
    if items.length = 6 then do
      let fields ← (Identification.fieldWidths.zip items).mapM fun f => field f.1 f.2
      return Identification.ofFields fields
    else fail .badValue

/-- Gives an identifier its number. Exactly one of the five forms has to be given. -/
def initialise (ask : Answering) (self : Value) (forms : List Value) (version safety : Value) :
    Run Value := do
  let absent ← forms.mapM fun (x : Value) => do
    if x = .nothing then return true else ask.isTrue (← ask (.equal x .nothing))
  if absent.count true = 4 then
    let number ←
      match forms with
      | [hex, bytes, swapped, fields, int] =>
        if hex ≠ .nothing then integer (← ofText hex)
        else if swapped ≠ .nothing then integer (← ofBytes ask swapped true)
        else if bytes ≠ .nothing then integer (← ofBytes ask bytes false)
        else if fields ≠ .nothing then integer (← ofFields fields)
        else pure int
      | _ => unsuitable
    let n ← field 128 number
    let number ←
      match version, version.number? with
      | .nothing, _ => pure number
      | _, some v =>
        if 1 ≤ v ∧ v ≤ 5 then integer (Identification.mark v n) else fail .badValue
      | _, none => unsuitable
    Assigning.assignInstance ask self "int" number
    Assigning.assignInstance ask self "is_safe" safety
    return .nothing
  else unsuitable

/-! ## State -/

def getState (ask : Answering) (self : Value) : Run Value := do
  let n ← ask.read self "int"
  let safety ← ask.read self "is_safe"
  if safety = Standard.unknownSafety then BuiltinData.ofEntries [("int", n)]
  else BuiltinData.ofEntries [("int", n), ("is_safe", ← ask.read safety "value")]

def setState (ask : Answering) (self state : Value) : Run Value := do
  match (← world).entries? state with
  | none => unsuitable
  | some entries =>
    match World.keyed? entries (.constant "int"),
      World.keyed? entries (.constant "is_safe") with
    | none, _ => fail .missingKey
    | some n, safety => do
      Assigning.assignInstance ask self "int" n
      if (safety.getD .nothing) = .nothing then do
        Assigning.assignInstance ask self "is_safe" Standard.unknownSafety
        return .nothing
      else fail .badValue

/-! ## All functions -/

def compare (ask : Answering) (self other : Value) (request : Value → Value → Request) :
    Run Value := do
  if ← ask.isTrue (← ask (.isInstance other (.cls cls))) then
    let x ← ask.read self "int"
    ask (request x (← ask.read other "int"))
  else return .undecided

def repr (ask : Answering) (self : Value) : Run Value := do
  let name ← ask.textOf (← ask.read (← ask.read self "__class__") "__name__")
  let shown ← ask.textOf self
  text (name ++ "(" ++ Quoted.text shown ++ ")")

def run (ask : Answering) (task : IdentifierTask) (arguments : List Value) : Run Value :=
  match task, arguments with
  | .initialise, [self, hex, bytes, swapped, fields, int, version, safety] =>
    initialise ask self [hex, bytes, swapped, fields, int] version safety
  | .getState, [self] => getState ask self
  | .setState, [self, state] => setState ask self state
  | .equality, [self, other] => compare ask self other .equal
  | .compare o, [self, other] => compare ask self other (.order o)
  | .hash, [self] => do ask (.hash (← ask.read self "int"))
  | .number, [self] => ask.read self "int"
  | .repr, [self] => repr ask self
  | .text, [self] => do text (Identification.text (← numberOf ask self))
  | .part name, [self] => part ask self name
  | .assign, _ => unsuitable
  | _, _ => unsuitable

end Identifier

end DomainModel.Live
