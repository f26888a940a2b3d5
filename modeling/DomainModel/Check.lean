import DomainModel.Condition

/-!
# Checking declarations

The directives of a declaration are checked in order, and the first fault ends the check: a
directive must not have been applied before, must be known, may only carry arguments that its role
reads, needs a declaration that has a shape, and that shape has to meet the role's conditions.
-/

namespace DomainModel

structure Applied where
  role : Role
  directive : Directive
  descriptor : Descriptor
deriving Repr, DecidableEq

def Directive.apply (d : Directive) (declaration : Declaration) : Except Violation Applied :=
  match Role.ofName? d.name with
  | none => .error (.unknownDirective d.name)
  | some role =>
    match role.argumentsFault? d.arguments with
    | some v => .error v
    | none =>
      match declaration.describe with
      | .error v => .error v
      | .ok descriptor =>
        match role.fault? descriptor with
        | some v => .error v
        | none => .ok ⟨role, d, descriptor⟩

namespace Declaration

def applyAfter (declaration : Declaration) (before : List Directive) (d : Directive) :
    Except Diagnostic Applied :=
  if d.name ∈ before.map (·.name) then .error (.report declaration d .repeatedDirective)
  else (d.apply declaration).mapError (.report declaration d)

def checkFrom (declaration : Declaration) (before : List Directive) :
    List Directive → Except Diagnostic (List Applied)
  | [] => .ok []
  | d :: ds => do
    let applied ← declaration.applyAfter before d
    return applied :: (← declaration.checkFrom (before ++ [d]) ds)

/-- The roles of a declaration, or the error of the first directive that does not fit. -/
def check (d : Declaration) : Except Diagnostic (List Applied) := d.checkFrom [] d.directives

end Declaration

def checkAll (declarations : List Declaration) : List Diagnostic :=
  declarations.filterMap fun d =>
    match d.check with
    | .ok _ => none
    | .error e => some e

end DomainModel
