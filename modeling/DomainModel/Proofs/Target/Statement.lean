import DomainModel.Text.Compatible
import DomainModel.Text.Keyword

/-!
# Statements of generated modules

The language of generated modules, read token by token. A line in progress is a stack of symbols, and a token
replaces the symbol that takes it. The symbols are those of the language's grammar as far as generated modules use
it; what they leave out is no statement here. Of the rules on names a line keeps those that need no other line, and
notes the names that other lines are checked for.
-/

namespace DomainModel.Target

inductive Token
  | name (n : String)
  | keyword (w : String)
  | number
  | text
  | openFormat
  | openField
  | closeField
  | closeFormat
  | openParen
  | closeParen
  | openBracket
  | closeBracket
  | comma
  | colon
  | dot
  | ellipsis
  | equals
  | same
  | arrow
  | star
  | bar
  | atSign
deriving Repr, DecidableEq

def Token.ofWord (w : String) : Token := if Keyword.isReserved w then keyword w else name w

inductive Form
  | plain
  | text
  | future
  | result
  | decorator
  | cls
  | function
  | branch
  | attempt
  | cleanup
  | choice
  | alternative
deriving Repr, DecidableEq

/-! ## Symbols -/

inductive Symbol
  | exactly (t : Token)
  -- expressions
  | expr
  | operand
  | isOperand
  | trail
  | operators
  | texts
  | format
  | selection
  | elements (close : Token)
  | moreElements (close : Token)
  | arguments
  | argument (n : String)
  | moreArguments
  -- simple statements
  | statement
  | target (n : String)
  | member
  | path (n : String)
  | called
  | value
  | source
  | imported
  | moreImported
  | imports
  | moreImports
  | renamed
  | bound
  -- headers of blocks
  | className
  | bases
  | functionName
  | parameters (starred : Bool)
  | parameter (starred : Bool)
  | typing
  | moreParameters (starred : Bool)
  | pattern
  | patternName
  | patternTail
  | capture
deriving Repr, DecidableEq

/-- What the token that a symbol takes puts in its place. -/
structure Move where
  push : List Symbol
  form : Option Form := none
  name? : Option String := none
deriving Repr, DecidableEq

namespace Symbol

/-- One name is a constant, although it is no reserved word. -/
def isBindable (n : String) : Bool := Compatible.name n ≠ "__debug__"

def constants : List String := ["False", "None", "True"]

/-- A line may end, or go on, without these symbols. -/
def canEnd : Symbol → Bool
  | trail | operators | texts | target _ | path _ | called | value | moreImported | renamed | bases | typing
  | patternTail => true
  | _ => false

/-! ### Expressions -/

def ofAtom : Token → Option (List Symbol)
  | .name _ => some [trail]
  | .keyword w => if w ∈ constants then some [trail] else none
  | .ellipsis => some [trail]
  | .number => some []
  | .text => some [texts, trail]
  | .openFormat => some [format, texts, trail]
  | .openParen => some [elements .closeParen, trail]
  | .openBracket => some [elements .closeBracket, trail]
  | _ => none

def ofExpr (t : Token) : Option (List Symbol) :=
  if t = .keyword "not" then some [expr] else (ofAtom t).map (· ++ [operators])

def ofTrail : Token → Option (List Symbol)
  | .dot => some [selection, trail]
  | .openParen => some [arguments, trail]
  | .openBracket => some [expr, moreElements .closeBracket, trail]
  | _ => none

def ofOperators : Token → Option (List Symbol)
  | .bar => some [operand, operators]
  | .same => some [operand, operators]
  | .keyword w =>
    if w = "in" then some [operand, operators]
    else if w = "is" then some [isOperand]
    else if w = "not" then some [exactly (.keyword "in"), operand, operators]
    else none
  | _ => none

def ofIsOperand (t : Token) : Option (List Symbol) :=
  if t = .keyword "not" then some [operand, operators] else (ofAtom t).map (· ++ [operators])

def ofTexts : Token → Option (List Symbol)
  | .text => some [texts]
  | .openFormat => some [format, texts]
  | _ => none

def ofFormat : Token → Option (List Symbol)
  | .openField => some [expr, exactly .closeField, format]
  | .closeFormat => some []
  | _ => none

def ofElements (close t : Token) : Option (List Symbol) :=
  if t = close then some [] else (ofExpr t).map (· ++ [moreElements close])

def ofMoreElements (close t : Token) : Option (List Symbol) :=
  if t = close then some [] else if t = .comma then some [elements close] else none

def ofArgument (n : String) : Token → Option (List Symbol)
  | .equals => if isBindable n then some [expr, exactly .closeParen] else none
  | .comma => some [arguments]
  | .closeParen => some []
  | t => ((ofTrail t).map (· ++ [operators]) <|> ofOperators t).map (· ++ [moreArguments])

def ofArguments : Token → Option (List Symbol)
  | .closeParen => some []
  | .name n => some [argument n]
  | t => (ofExpr t).map (· ++ [moreArguments])

/-! ### Names -/

def ofName (push : List Symbol) : Token → Option (List Symbol)
  | .name _ => some push
  | _ => none

def ofBinding (push : List Symbol) : Token → Option (List Symbol)
  | .name n => if isBindable n then some push else none
  | _ => none

def ofNoted (push : List Symbol) : Token → Option Move
  | .name n => if isBindable n then some { push, name? := some n } else none
  | _ => none

def ofParameter (starred : Bool) : Token → Option Move := ofNoted [typing, moreParameters starred]

/-! ### Statements -/

def ofStatement : Token → Option Move
  | .text => some { push := [texts], form := some .text }
  | .name n => some { push := [target n] }
  | .atSign => some { push := [expr], form := some .decorator }
  | .keyword w =>
    if w = "pass" then some { push := [] }
    else if w = "return" then some { push := [expr], form := some .result }
    else if w = "raise" then some { push := [expr] }
    else if w = "import" then some { push := [bound, renamed] }
    else if w = "from" then some { push := [source] }
    else if w = "class" then some { push := [className, bases, exactly .colon], form := some .cls }
    else if w = "def" then
      some { push := [functionName, exactly .openParen, parameters false, exactly .arrow, expr, exactly .colon]
             form := some .function }
    else if w = "if" then some { push := [expr, exactly .colon], form := some .branch }
    else if w = "try" then some { push := [exactly .colon], form := some .attempt }
    else if w = "finally" then some { push := [exactly .colon], form := some .cleanup }
    else none
  | _ => none

/-- Behind the first name of a line. Two words begin a statement if another name follows. -/
def ofTarget (n : String) : Token → Option Move
  | .colon => if isBindable n then some { push := [expr, value] } else none
  | .equals => if isBindable n then some { push := [expr] } else none
  | .dot => some { push := [member] }
  | .openParen => some { push := [arguments, called] }
  | .name m =>
    if n = "match" then some { push := [trail, operators, exactly .colon], form := some .choice }
    -- a lone underscore matches everything, and has no parts
    else if n = "case" ∧ m ≠ "_" then some { push := [pattern, exactly .colon], form := some .alternative }
    else none
  | _ => none

def ofPath (n : String) : Token → Option (List Symbol)
  | .equals => if isBindable n then some [expr] else none
  | .dot => some [member]
  | .openParen => some [arguments, called]
  | _ => none

def ofCalled : Token → Option (List Symbol)
  | .dot => some [member]
  | .openParen => some [arguments, called]
  | _ => none

def ofSource : Token → Option Move
  | .name n =>
    if Compatible.name n = "__future__" then
      some { push := [exactly (.keyword "import"), exactly (.name "annotations")], form := some .future }
    else some { push := [exactly (.keyword "import"), imported] }
  | _ => none

def ofPatternTail : Token → Option (List Symbol)
  | .dot => some [patternName]
  | .openParen => some [capture]
  | _ => none

def quiet (push : Option (List Symbol)) : Option Move := push.map fun push => { push }

def on : Symbol → Token → Option Move
  | exactly u, t => quiet (if t = u then some [] else none)
  | expr, t => quiet (ofExpr t)
  | operand, t => quiet (ofAtom t)
  | isOperand, t => quiet (ofIsOperand t)
  | trail, t => quiet (ofTrail t)
  | operators, t => quiet (ofOperators t)
  | texts, t => quiet (ofTexts t)
  | format, t => quiet (ofFormat t)
  | selection, t => quiet (ofName [] t)
  | elements close, t => quiet (ofElements close t)
  | moreElements close, t => quiet (ofMoreElements close t)
  | arguments, t => quiet (ofArguments t)
  | argument n, t => quiet (ofArgument n t)
  | moreArguments, t =>
    quiet (if t = .closeParen then some [] else if t = .comma then some [arguments] else none)
  | statement, t => ofStatement t
  | target n, t => ofTarget n t
  | member, .name n => some { push := [path n] }
  | member, _ => none
  | path n, t => quiet (ofPath n t)
  | called, t => quiet (ofCalled t)
  | value, t => quiet (if t = .equals then some [expr] else none)
  | source, t => ofSource t
  | imported, t => quiet (if t = .openParen then some [bound, moreImports] else ofBinding [moreImported] t)
  | moreImported, t => quiet (if t = .comma then some [bound, moreImported] else none)
  | imports, t => quiet (if t = .closeParen then some [] else ofBinding [moreImports] t)
  | moreImports, t => quiet (if t = .closeParen then some [] else if t = .comma then some [imports] else none)
  | renamed, t => quiet (if t = .keyword "as" then some [bound] else none)
  | bound, t => quiet (ofBinding [] t)
  | className, t => ofNoted [] t
  | bases, t => quiet (if t = .openParen then some [elements .closeParen] else none)
  | functionName, t => quiet (ofBinding [] t)
  | parameters starred, t =>
    if t = .closeParen then some { push := [] }
    else if t = .star ∧ ¬starred then some { push := [exactly .comma, parameter true] }
    else ofParameter starred t
  | parameter starred, t => ofParameter starred t
  | typing, t => quiet (if t = .colon then some [expr] else none)
  | moreParameters starred, t =>
    quiet (if t = .closeParen then some [] else if t = .comma then some [parameters starred] else none)
  | pattern, t => quiet (ofPatternTail t)
  | patternName, t => quiet (ofName [patternTail] t)
  | patternTail, t => quiet (ofPatternTail t)
  | capture, t => quiet (if t = .closeParen then some [] else ofBinding [exactly .closeParen] t)

end Symbol

/-! ## Lines -/

/-- A token is taken by the first symbol that can take it, if those before it can be left out. -/
def feed : List Symbol → Token → Option Move
  | [], _ => none
  | s :: ss, t =>
    match s.on t with
    | some m => some { m with push := m.push ++ ss }
    | none => if s.canEnd then feed ss t else none

structure Line where
  column : Nat
  form : Form := .plain
  names : List String := []
deriving Repr, DecidableEq

structure Progress extends Line where
  stack : List Symbol := [.statement]
deriving Repr, DecidableEq

def Progress.take (p : Progress) (t : Token) : Option Progress :=
  (feed p.stack t).map fun m =>
    { column := p.column, form := m.form.getD p.form, names := m.name?.elim p.names (p.names ++ [·]), stack := m.push }

def Progress.line? (p : Progress) : Option Line := if p.stack.all Symbol.canEnd then some p.toLine else none

end DomainModel.Target
