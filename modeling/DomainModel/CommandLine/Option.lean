import DomainModel.Text.Likeness
import DomainModel.Text.Quoted

/-!
# Options

The options of a command, and how a list of arguments is taken apart by them. A long option may
have its value behind an equals sign, a short one right behind its letter, and letters may share a
dash.
-/

namespace DomainModel.CommandLine

-- Sums mean the same under all imports.
attribute [local instance (high)] Zero.ofOfNat0

inductive Arity
  | flag
  | value
  | optional (implied : String)
deriving Repr, DecidableEq

structure Opt where
  /-- The name that the option's value has, also in the environment. -/
  param : String
  long : String
  short : Option Char
  arity : Arity
  required : Bool
  help : String
deriving Repr, DecidableEq

def Opt.spellings (o : Opt) : List String :=
  o.long :: o.short.toList.map fun c => String.ofList ['-', c]

def helpOption : Opt :=
  { param := "_click_default_help", long := "--help", short := none, arity := .flag, required := false
    help := "Show this message and exit." }

inductive UsageFault
  /-- An option that there is none of, and those that may have been meant. -/
  | unknownOption (spelling : String) (alike : List String)
  | missingValue (spelling : String)
  | superfluousValue (spelling : String)
  | missingOption (o : Opt)
  | notBoolean (o : Opt) (given : String)
  | extraArguments (arguments : List String)
  | unknownCommand (name : String) (alike : List String)
  | missingCommand
deriving Repr, DecidableEq

namespace UsageFault

def hint (o : Opt) : String :=
  " / ".intercalate (o.spellings.map fun s => "'" ++ s ++ "'")

def booleanWords : List (String × Bool) :=
  [("", false), ("0", false), ("1", true), ("f", false), ("false", false), ("n", false),
   ("no", false), ("off", false), ("on", true), ("t", true), ("true", true), ("y", true),
   ("yes", true)]

def suggestion : (alike : List String) → String
  | [] => ""
  | [name] => " Did you mean " ++ Quoted.text name ++ "?"
  | names => " (Did you mean one of: " ++ ", ".intercalate (names.map Quoted.text) ++ "?)"

def message : UsageFault → String
  | unknownOption s alike => "No such option " ++ Quoted.text s ++ "." ++ suggestion alike
  | missingValue s => "Option " ++ Quoted.text s ++ " requires an argument."
  | superfluousValue s => "Option " ++ Quoted.text s ++ " does not take a value."
  | missingOption o => "Missing option " ++ hint o ++ "."
  | notBoolean o given =>
    "Invalid value for " ++ hint o ++ ": " ++ Quoted.text given
      ++ " is not a valid boolean. Recognized values: "
      ++ ", ".intercalate (booleanWords.map Prod.fst)
  | extraArguments [a] => "Got unexpected extra argument (" ++ a ++ ")"
  | extraArguments as => "Got unexpected extra arguments (" ++ " ".intercalate as ++ ")"
  | unknownCommand name alike =>
    "No such command " ++ Quoted.text name ++ "." ++ suggestion alike
  | missingCommand => "Missing command."

/-- Whether the error is shown with the usage of its command; one about a value is not. -/
def showsUsage : UsageFault → Bool
  | missingValue _ | superfluousValue _ => false
  | _ => true

end UsageFault

/-! ## Taking arguments apart -/

/-- An option that was given, and its value if it takes one. -/
abbrev Given := Opt × String

structure Parsed where
  given : List Given := []
  others : List String := []
deriving Repr, DecidableEq

def looksLikeOption (argument : String) : Bool :=
  argument.toList.head? = some '-' && argument.length ≠ 1

/-- The names that may have been meant by another one, in alphabetical order. -/
def alike (name : String) (names : List String) : List String :=
  (names.filter (Likeness.isAlike · name)).mergeSort

/-- The value of an option, taken from the arguments behind it. -/
def takeValue (o : Opt) (spelling : String) (rest : List String) :
    Except UsageFault (String × List String) :=
  match o.arity, rest with
  | .optional implied, r :: rs => if looksLikeOption r then .ok (implied, rest) else .ok (r, rs)
  | .optional implied, [] => .ok (implied, [])
  | _, r :: rs => .ok (r, rs)
  | _, [] => .error (.missingValue spelling)

/-- The part of an argument before its first equals sign, and the part behind it. -/
def splitEquals (argument : String) : String × Option String :=
  let cs := argument.toList
  match cs.dropWhile (· ≠ '=') with
  | [] => (argument, none)
  | _ :: value => (String.ofList (cs.takeWhile (· ≠ '=')), some (String.ofList value))

/-- The options that share a dash; what follows the letter of one that takes a value is its value.
-/
def takeShort (options : List Opt) (rest : List String) :
    List Char → Except UsageFault (List Given × List String)
  | [] => .ok ([], rest)
  | c :: cs =>
    let spelling := String.ofList ['-', c]
    match options.find? (·.short = some c) with
    | none => .error (.unknownOption spelling [])
    | some o =>
      match o.arity with
      | .flag => do
        let (given, rest) ← takeShort options rest cs
        return ((o, "") :: given, rest)
      | _ => do
        let rest := if cs.isEmpty then rest else String.ofList cs :: rest
        let (value, rest) ← takeValue o spelling rest
        return ([(o, value)], rest)

/-- The option that an argument names, with what else is taken of the arguments behind it. -/
def takeOption (options : List Opt) (argument : String) (rest : List String) :
    Except UsageFault (List Given × List String) :=
  let (name, explicit) := splitEquals argument
  match options.find? (·.long = name), explicit with
  | some o, explicit =>
    match o.arity, explicit with
    | .flag, none => .ok ([(o, "")], rest)
    | .flag, some _ => .error (.superfluousValue name)
    | _, _ => do
      let (value, rest) ← takeValue o name (explicit.toList ++ rest)
      return ([(o, value)], rest)
  | none, _ =>
    match argument.toList with
    | '-' :: '-' :: _ =>
      .error (.unknownOption name (alike name (options.map (·.long))))
    | cs => takeShort options rest cs.tail

/-- Takes arguments apart; with `mixed`, options may stand behind other arguments. `fuel` bounds the
number of arguments, of which one can become two. -/
def parseWithin (options : List Opt) (mixed : Bool) :
    (fuel : Nat) → Parsed → List String → Except UsageFault Parsed
  | 0, p, rest => .ok { p with others := p.others ++ rest }
  | _, p, [] => .ok p
  | fuel + 1, p, argument :: rest =>
    if argument = "--" then .ok { p with others := p.others ++ rest }
    else if looksLikeOption argument then do
      let (given, rest) ← takeOption options argument rest
      parseWithin options mixed fuel { p with given := p.given ++ given } rest
    else if mixed then
      parseWithin options mixed fuel { p with others := p.others ++ [argument] } rest
    else .ok { p with others := p.others ++ argument :: rest }

def parseOptions (options : List Opt) (mixed : Bool) (arguments : List String) :
    Except UsageFault Parsed :=
  parseWithin options mixed ((arguments.map fun a => a.length + 1).sum) {} arguments

namespace Parsed

/-- The value of an option; of several the last counts. -/
def value? (p : Parsed) (param : String) : Option String :=
  (p.given.reverse.find? (·.1.param = param)).map Prod.snd

def has (p : Parsed) (param : String) : Bool := (p.value? param).isSome

end Parsed

end DomainModel.CommandLine
