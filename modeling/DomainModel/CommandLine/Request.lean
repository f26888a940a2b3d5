import DomainModel.CommandLine.Command
import DomainModel.Module
import DomainModel.Text.Lines

/-!
# Requests

What a command line asks for. The program's own options come first, then the command with its
options. An option that is not among the arguments takes its value from the environment, where an
empty value counts as none.
-/

namespace DomainModel.CommandLine

abbrev Environment := List (String × String)

abbrev Values := List (String × String)

inductive Request
  | run (command : Command)
  | help (subject : Subject)
  | nothing
  | refused (subject : Subject) (fault : UsageFault)
deriving Repr, DecidableEq

/-! ## The environment -/

def Subject.variable (s : Subject) (o : Opt) : String :=
  let names := s.toList.map Verb.text ++ [o.param]
  "_".intercalate (environmentName :: names.map String.toUpper)

def Environment.names : List String :=
  (none :: Verb.all.map some).flatMap fun s => (Subject.options s).map (Subject.variable s)

def Environment.value? (environment : Environment) (name : String) : Option String :=
  (environment.lookup name).filter (· ≠ "")

/-- The truth of a word; blanks around it and the case of its letters do not matter. -/
def truth? (word : String) : Option Bool :=
  let cs := ((word.toList.dropWhile Lines.isSpace).reverse.dropWhile Lines.isSpace).reverse
  UsageFault.booleanWords.lookup (String.ofList (cs.map Char.toLower))

def Opt.inherited (o : Opt) (environment : Environment) (s : Subject) :
    Except UsageFault (Option String) :=
  match environment.value? (s.variable o), o.arity with
  | none, _ => if o.required then .error (.missingOption o) else .ok none
  | some given, .flag =>
    match truth? given with
    | some b => .ok (if b then some "" else none)
    | none => .error (.notBoolean o given)
  | some given, _ => .ok (some given)

/-! ## Reading -/

def Parsed.valueOf (p : Parsed) (environment : Environment) (s : Subject) (o : Opt) :
    Except UsageFault (Option String) :=
  match p.value? o.param with
  | some value => .ok (some value)
  | none => o.inherited environment s

/-- The values of all options, or none if help is asked for: that comes before all else. -/
def Parsed.values? (p : Parsed) (environment : Environment) (s : Subject) :
    Except UsageFault (Option Values) := do
  if (← p.valueOf environment s helpOption).isSome then return none
  let values ← s.values.mapM fun o => return (← p.valueOf environment s o).map (o.param, ·)
  return some (values.filterMap id)

def Verb.command (v : Verb) (values : Values) : Command :=
  let value (o : Opt) : String := (values.lookup o.param).getD ""
  match v with
  | check => .check (value inputOption)
  | generate =>
    .generate (value inputOption) (value moduleOption)
      ((values.lookup contractsOption.param).getD defaultContracts)
  | info => .info (value inputOption) (values.lookup dataOption.param).isSome
  | contracts =>
    .contracts ((values.lookup folderOption.param).getD ".")
      ((values.lookup nameOption.param).getD defaultContracts)

/-- Reads what follows the name of a command, where options and other arguments may be mixed. -/
def Verb.request (v : Verb) (environment : Environment) (arguments : List String) : Request :=
  let read : Except UsageFault Request := do
    let p ← parseOptions v.options true arguments
    match ← p.values? environment (some v) with
    | none => return .help (some v)
    | some values =>
      if p.others.isEmpty then return .run (v.command values)
      else throw (.extraArguments p.others)
  match read with
  | .ok request => request
  | .error fault => .refused (some v) fault

/-- Reads arguments of which the first is no command, as if they had options in front of them. -/
def unknownCommand (name : String) (arguments : List String) : Except UsageFault Request := do
  let p ← parseOptions programOptions false (name :: arguments)
  if p.has helpOption.param then return .help none
  else throw (.unknownCommand name (alike name (Verb.all.map Verb.text)))

namespace Request

def ofArguments (environment : Environment) (arguments : List String) : Request :=
  let read : Except UsageFault Request := do
    let p ← parseOptions programOptions false arguments
    match ← p.values? environment none, p.others with
    | none, _ => return .help none
    | some _, [] => throw .missingCommand
    | some _, name :: rest =>
      match Verb.ofName? name with
      | some v => return v.request environment rest
      | none => unknownCommand name rest
  if arguments.isEmpty then .nothing
  else
    match read with
    | .ok request => request
    | .error fault => .refused none fault

end Request

end DomainModel.CommandLine
