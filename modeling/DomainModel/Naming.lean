import DomainModel.Diagnostic
import DomainModel.Source.Scan
import DomainModel.Text.Keyword

/-!
# Names of a file

A file may not use a reserved word as a name, declare a name twice, or give a record two fields,
or a sum two variants, of one name. The elements are gone through in their order: a declaration,
its fields, its variants, the next declaration; the first that breaks a rule is reported.
-/

namespace DomainModel.Naming

def reservedFields : List String := ["self", "cls"]

/-- The first fault that a rule finds in a list, whose elements are checked against those before
them. -/
def firstFault? (rule : List α → α → Option NamingFault) (location : α → Option Location) :
    (before : List α) → List α → Option Diagnostic
  | _, [] => none
  | before, x :: xs =>
    match rule before x with
    | some fault => some ⟨.naming fault, location x⟩
    | none => firstFault? rule location (before ++ [x]) xs

def fieldFault? (d : Declaration) (before : List Field) (f : Field) : Option NamingFault :=
  if Keyword.isReserved f.name then some (.reservedWord .field f.name)
  else if f.name ∈ reservedFields then some (.reservedField f.name)
  else if f.name ∈ before.map (·.name) then some (.repeatedField d.name f.name)
  else none

def variantFault? (d : Declaration) (before : List Variant) (v : Variant) : Option NamingFault :=
  if Keyword.isReserved v.name then some (.reservedWord .variant v.name)
  else if v.name ∈ before.map (·.name) then some (.repeatedVariant d.name v.name)
  else none

/-- A declaration's own name; a repeated one is reported with the place of the first. -/
def declarationFault? (before : List Declaration) (d : Declaration) : Option NamingFault :=
  if Keyword.isReserved d.name then some (.reservedWord .declaration d.name)
  else (before.find? (·.name = d.name)).map fun first =>
    .repeatedDeclaration d.name first.location

/-- The first fault of a declaration, of its name, its fields or its variants. -/
def fault? (before : List Declaration) (d : Declaration) : Option Diagnostic :=
  match declarationFault? before d with
  | some fault => some ⟨.naming fault, d.location⟩
  | none =>
    (firstFault? (fieldFault? d) (·.location) [] d.fields).or
      (firstFault? (variantFault? d) (·.location) [] d.variants)

def firstFaultFrom? (before : List Declaration) : List Declaration → Option Diagnostic
  | [] => none
  | d :: ds => (fault? before d).or (firstFaultFrom? (before ++ [d]) ds)

def check (declarations : List Declaration) : Except Diagnostic Unit :=
  match firstFaultFrom? [] declarations with
  | some d => .error d
  | none => .ok ()

end DomainModel.Naming

namespace DomainModel

def parse (text : String) (file : Option String) : Except Diagnostic (List Declaration) :=
  match readDeclarations text file with
  | .error e => .error ⟨.syntactic e.fault, some (.ofPosition file e.position)⟩
  | .ok declarations => (Naming.check declarations).map fun _ => declarations

end DomainModel
