import DomainModel.ClassPlan

/-!
# Generated modules

A generated module imports the contracts, then holds the errors of the value objects, the classes,
the synonyms of types, and the statements that need all classes. Nothing is generated from a file
with an error in it.
-/

namespace DomainModel

structure Synonym where
  name : String
  annotation : String
deriving Repr, DecidableEq

structure Module where
  contracts : String
  classes : List ClassPlan
  synonyms : List Synonym
deriving Repr, DecidableEq

namespace Module

inductive Part
  | cls (plan : ClassPlan)
  | synonym (s : Synonym)

def Part.plan? : Part → Option ClassPlan
  | cls plan => some plan
  | synonym _ => none

def Part.synonym? : Part → Option Synonym
  | cls _ => none
  | synonym s => some s

/-- A synonym has no shape, so that every directive on one is an error. -/
def part (d : Declaration) : Except Diagnostic Part :=
  match d.kind with
  | .synonym => do
    let _ ← d.check
    return .synonym ⟨d.name, (d.target.map TypeRef.annotation).getD ""⟩
  | .record | .sum => return .cls (← ClassPlan.ofDeclaration d)

/-- Plans a module; the first declaration with an error ends it. -/
def ofDeclarations (declarations : List Declaration) (contracts : String) :
    Except Diagnostic Module := do
  let parts ← declarations.mapM part
  return ⟨contracts, parts.filterMap Part.plan?, parts.filterMap Part.synonym?⟩

/-! ## Source -/

/-- A module name without a dot is looked for beside the generated module. -/
def isLocal (m : Module) : Bool := '.' ∉ m.contracts.toList

def importLines (m : Module) (margin : String) : List String :=
  [margin ++ "from " ++ m.contracts ++ " import ("]
    ++ Contract.imported.map (fun c => margin ++ "    " ++ c.text ++ ",")
    ++ [margin ++ ")"]

/-- A local import needs the module's own folder on the search path while it lasts. -/
def contractLines (m : Module) : List String :=
  if m.isLocal then
    ["_runtime_path = str(Path(__file__).parent)",
     "_added_to_path = _runtime_path not in sys.path",
     "if _added_to_path:",
     "    sys.path.insert(0, _runtime_path)",
     "try:"]
      ++ m.importLines "    "
      ++ ["finally:", "    if _added_to_path:", "        sys.path.remove(_runtime_path)"]
  else m.importLines ""

def headLines (m : Module) : List String :=
  ["\"\"\"Generated domain model definitions.\"\"\"", "", "from __future__ import annotations", "",
   "import copy as _copy"]
    ++ (if m.isLocal then ["import sys", "from pathlib import Path"] else [])
    ++ ["from typing import ClassVar, TypeAlias", "from uuid import UUID", ""]
    ++ m.contractLines

def synonymLine (s : Synonym) : String := s.name ++ ": TypeAlias = \"" ++ s.annotation ++ "\""

def lines (m : Module) : List String :=
  m.headLines
    ++ m.classes.flatMap (fun p => p.errors.map fun e => Member.tidy e.source)
    ++ m.classes.flatMap (·.lines)
    ++ m.synonyms.map synonymLine
    ++ m.classes.flatMap (·.epilogue)

def text (m : Module) : String := Member.ofLines m.lines

end Module

def render (declarations : List Declaration) (contracts : String) : Except Diagnostic String :=
  (Module.ofDeclarations declarations contracts).map Module.text

def defaultContracts : String := "domaingen_runtime"

end DomainModel
