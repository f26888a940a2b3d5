import DomainModel.Check
import DomainModel.CommandLine.Console
import DomainModel.CommandLine.FileSystem
import DomainModel.CommandLine.Overview
import DomainModel.CommandLine.Request
import DomainModel.Contract.Source
import DomainModel.Naming

/-!
# Outcomes

What the commands do, and what they print of it. A file that is no declaration file, or has an
error in it, ends a command before anything is written.
-/

namespace DomainModel.CommandLine

-- Sums mean the same under all imports.
attribute [local instance (high)] Zero.ofOfNat0

structure Outcome where
  status : Nat
  output : String := ""
  errors : String := ""
deriving Repr, DecidableEq

namespace Outcome

def failure (errors : List (String × Diagnostic)) : Outcome :=
  { status := 1, errors := String.join (errors.map fun e => Console.line e.1 e.2.text) }

def success (output : String) : Outcome := { status := 0, output }

def misuse (s : Subject) (fault : UsageFault) : Outcome :=
  let usage :=
    if fault.showsUsage then s.usageLine ++ "\nTry '" ++ s.path ++ " --help' for help.\n\n" else ""
  let text := usage ++ "Error: " ++ fault.message ++ "\n"
  { status := 2, errors := String.ofList (Console.plain text.toList) }

end Outcome

def textOf? (bytes : ByteArray) : Option String :=
  (String.fromUTF8? bytes).map fun s => String.ofList (Lines.unify s.toList)

def Outcome.ofCheck (declarations : List Declaration) : Outcome :=
  match checkAll declarations with
  | [] =>
    let directives := (declarations.map (·.directives.length)).sum
    .success s!"{declarations.length} declarations, {directives} directives OK\n"
  | errors => .failure (errors.map fun d => (d.category.text, d))

def Outcome.ofOverview (asData : Bool) (declarations : List Declaration) : Outcome :=
  .success (if asData then Overview.data declarations else Overview.table declarations)

section
variable {m : Type → Type} [Monad m] [FileSystem m]

/-- Reads the declarations of a file; positions in it carry the path that it was given by. -/
def readDeclarations (input : String) :
    ExceptT FileFault m (Except Diagnostic (List Declaration)) := do
  match textOf? (← FileSystem.read input) with
  | some text => return parse text (some input)
  | none => throw .undecodable

def writeModule (input output contracts : String) : ExceptT FileFault m Outcome := do
  match (← readDeclarations input).bind (render · contracts) with
  | .error d => return .failure [("error", d)]
  | .ok source =>
    FileSystem.write output source.toUTF8
    return .success ""

/-- Answers with what the declarations of a file give, or with the error that it has. -/
def report (input : String) (answer : List Declaration → Outcome) :
    ExceptT FileFault m Outcome := do
  match ← readDeclarations input with
  | .error d => return .failure [("error", d)]
  | .ok declarations => return answer declarations

def writeContracts (output name : String) : ExceptT FileFault m Outcome := do
  let folder := Path.join output name
  FileSystem.makeFolders folder
  Contract.files.forM fun f => FileSystem.write (Path.join folder f.1) f.2.toUTF8
  return .success s!"Generated Python runtime in {folder}\n"

def Command.run : Command → ExceptT FileFault m Outcome
  | .generate input output source => writeModule input output source
  | .check input => report input .ofCheck
  | .info input asData => report input (.ofOverview asData)
  | .contracts output name => writeContracts output name

def Request.answer : Request → ExceptT FileFault m Outcome
  | .run command => command.run
  | .help s => return .success s.help
  | .nothing => return { status := 2, errors := Subject.help none }
  | .refused s fault => return .misuse s fault

def run (environment : Environment) (arguments : List String) : ExceptT FileFault m Outcome :=
  (Request.ofArguments environment arguments).answer

end

end DomainModel.CommandLine
