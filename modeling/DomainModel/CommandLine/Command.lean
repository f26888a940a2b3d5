import DomainModel.CommandLine.Option

/-!
# Commands

The commands of the program with their options, and the texts of their help.
-/

namespace DomainModel.CommandLine

def programName : String := "domaingen"

/-- Every option with a value has a variable in the environment, whose name starts like this. -/
def environmentName : String := "DOMAINGEN"

inductive Command
  /-- Writes the module for a file, with the module that its contracts are imported from. -/
  | generate (input output contracts : String)
  | check (input : String)
  | info (input : String) (asData : Bool)
  | contracts (output name : String)
deriving Repr, DecidableEq

inductive Verb
  | check
  | generate
  | info
  | contracts
deriving Repr, DecidableEq

namespace Verb

def all : List Verb := [check, generate, info, contracts]

def text : Verb → String
  | check => "check"
  | generate => "gen"
  | info => "info"
  | contracts => "runtime"

def ofName? (name : String) : Option Verb := all.find? (·.text = name)

def summary : Verb → String
  | check => "Check every directive of a declaration file without generating code."
  | generate => "Generate a Python module from a declaration file."
  | info => "Display declarations and how their field types are classified."
  | contracts => "Generate runtime support code."

def inputOption : Opt :=
  { param := "input_file", long := "--input", short := some 'i', arity := .value, required := true
    help := "Input declaration file" }

def moduleOption : Opt :=
  { param := "output_file", long := "--output", short := some 'o', arity := .value, required := true
    help := "Output file" }

def installedContracts : String := "domaingen.runtime"

def contractsOption : Opt :=
  { param := "runtime_import", long := "--runtime-import", short := none
    arity := .optional installedContracts, required := false
    help := "Import path for runtime. No value=domaingen.runtime, omit=domaingen_runtime" }

def dataOption : Opt :=
  { param := "output_json", long := "--json", short := none, arity := .flag, required := false
    help := "Output as JSON" }

def folderOption : Opt :=
  { param := "output_path", long := "--output", short := some 'o', arity := .value
    required := false, help := "Output directory" }

def nameOption : Opt :=
  { param := "name", long := "--name", short := none, arity := .value, required := false
    help := "Runtime folder name" }

def options : Verb → List Opt
  | check => [inputOption, helpOption]
  | generate => [inputOption, moduleOption, contractsOption, helpOption]
  | info => [inputOption, dataOption, helpOption]
  | contracts => [folderOption, nameOption, helpOption]

end Verb

def programOptions : List Opt :=
  [{ param := "verbose", long := "--verbose", short := some 'v', arity := .flag, required := false
     help := "Enable debug logging" },
   helpOption]

/-! ## Help -/

abbrev Subject := Option Verb

namespace Subject

def path : Subject → String
  | none => programName
  | some v => programName ++ " " ++ v.text

def options : Subject → List Opt
  | none => programOptions
  | some v => v.options

/-- The options that say something of what a command does: all but the one for help. -/
def values (s : Subject) : List Opt := s.options.filter (·.param ≠ helpOption.param)

def usageLine (s : Subject) : String :=
  "Usage: " ++ s.path ++ match s with
    | none => " [OPTIONS] COMMAND [ARGS]..."
    | some _ => " [OPTIONS]"

def width : Nat := 78

def wrapWords (limit : Nat) : (line : String) → List String → List String
  | line, [] => [line]
  | line, w :: ws =>
    if line.isEmpty then wrapWords limit w ws
    else if line.length + 1 + w.length ≤ limit then wrapWords limit (line ++ " " ++ w) ws
    else line :: wrapWords limit w ws

def wrap (limit : Nat) (text : String) : List String :=
  if text.length ≤ limit then [text] else wrapWords limit "" (text.splitOn " ")

def spaces (n : Nat) : String := String.ofList (List.replicate n ' ')

/-- Rows of two columns; the second is wrapped and lined up behind the widest first one. -/
def columns (rows : List (String × String)) : List String :=
  let first := (rows.map (·.1.length)).foldl max 0 + 2
  rows.flatMap fun row =>
    match wrap (width - first - 2) row.2 with
    | [] => ["  " ++ row.1]
    | l :: ls =>
      ("  " ++ row.1 ++ spaces (first - row.1.length) ++ l) :: ls.map (spaces (first + 2) ++ ·)

def optionRow (o : Opt) : String × String :=
  let spelled := ", ".intercalate (o.spellings.reverse)
  (match o.arity with
    | .flag => spelled
    | .value | .optional _ => spelled ++ " TEXT",
   if o.required then o.help ++ "  [required]" else o.help)

/-- As many words as fit on `limit` characters, dots included, in front of those kept already. -/
def fitting (limit : Nat) : (kept : List String) → List String → List String
  | kept, [] => kept
  | kept, w :: ws =>
    let more := kept ++ [w]
    if (" ".intercalate more).length + 3 ≤ limit then fitting limit more ws else kept

def shorten (limit : Nat) (text : String) : String :=
  if text.length ≤ limit then text
  else " ".intercalate (fitting limit [] (text.splitOn " ")) ++ "..."

def commandRows : List (String × String) :=
  let limit := width - 6 - (Verb.all.map (·.text.length)).foldl max 0
  Verb.all.map fun v => (v.text, shorten limit v.summary)

def help (s : Subject) : String :=
  let summary := match s with
    | none => "Domain model code generator."
    | some v => v.summary
  let commands := match s with
    | none => ["", "Commands:"] ++ columns commandRows
    | some _ => []
  "\n".intercalate ([usageLine s, "", "  " ++ summary, "", "Options:"]
    ++ columns (s.options.map optionRow) ++ commands ++ [""])

end Subject

end DomainModel.CommandLine
