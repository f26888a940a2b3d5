import DomainModel.CommandLine.Outcome

/-!
# The program

Runs the command line on the files and the environment of the process.
-/

namespace DomainModel

def faultOf : IO.Error → FileFault
  | .noFileOrDirectory .. => .notFound
  | .alreadyExists .. => .alreadyExists
  | _ => .other

def attempt (action : IO α) : ExceptT FileFault IO α :=
  ExceptT.mk (do
    try return .ok (← action)
    catch e => return .error (faultOf e))

instance : FileSystem IO where
  read path := attempt (IO.FS.readBinFile path)
  write path bytes := attempt (IO.FS.writeBinFile path bytes)
  makeFolders path := attempt (IO.FS.createDirAll path)

def environment : IO CommandLine.Environment := do
  let values ← CommandLine.Environment.names.mapM fun name =>
    return (← IO.getEnv name).map (name, ·)
  return values.filterMap id

end DomainModel

open DomainModel in
/-- Runs the program; its status tells whether it succeeded. -/
def main (arguments : List String) : IO UInt32 := do
  let outcome : Except FileFault CommandLine.Outcome ←
    (CommandLine.run (← environment) arguments).run
  match outcome with
  | .ok outcome =>
    IO.print outcome.output
    IO.eprint outcome.errors
    return outcome.status.toUInt32
  | .error fault =>
    IO.eprintln fault.message
    return 1
