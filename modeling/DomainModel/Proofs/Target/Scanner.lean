import DomainModel.Proofs.Target.Statement
import DomainModel.Text.Identifier

/-!
# The text of generated modules

How the characters of a module make tokens and lines.
-/

namespace DomainModel.Target

inductive Bracket
  | round
  | square
  | field
deriving Repr, DecidableEq

/-- How far a literal between triple quotes has been read, behind its opening quotes. -/
inductive Long
  | inside (quotes : Nat)
  | escaped
deriving Repr, DecidableEq

inductive Mode
  | margin (column : Nat)
  | code
  | word (cs : List Char)
  | dots (n : Nat)
  | minus
  | equals
  | opened
  | doubled
  | short
  | long (q : Long)
  | formatted (fresh : Bool)
  | conversion
  | converted
deriving Repr, DecidableEq

structure Scanner where
  mode : Mode := .margin 0
  brackets : List Bracket := []
  line : Progress := { column := 0 }
  lines : List Line := []
deriving Repr, DecidableEq

namespace Scanner

/-- What a literal between single quotes does not hold as it is. -/
def isForbidden (c : Char) : Bool := c = '\\' || c = '\n' || c = '\r'

def emit (s : Scanner) (t : Token) : Option Scanner :=
  (s.line.take t).map fun line => { s with mode := .code, line }

def openBracket (s : Scanner) (b : Bracket) (t : Token) : Option Scanner :=
  emit { s with brackets := b :: s.brackets } t

def closeBracket (s : Scanner) (b : Bracket) (t : Token) : Option Scanner :=
  match s.brackets with
  | [] => none
  | c :: bs => if b = c then emit { s with brackets := bs } t else none

def feedLine (s : Scanner) : Option Scanner :=
  match s.brackets with
  | [] => s.line.line?.map fun line => { lines := s.lines ++ [line] }
  | bs => if .field ∈ bs then none else some { s with mode := .code }

/-- A character that does not go on with anything. -/
def code (s : Scanner) (c : Char) : Option Scanner :=
  if Identifier.isStart c then some { s with mode := .word [c] }
  else if c.isDigit then s.emit .number
  else match c with
    | ' ' => some { s with mode := .code }
    | '\n' => s.feedLine
    -- a text within a formatted one would end it
    | '"' => if .field ∈ s.brackets then none else some { s with mode := .opened }
    | '.' => some { s with mode := .dots 1 }
    | '-' => some { s with mode := .minus }
    | '=' => some { s with mode := .equals }
    | '(' => s.openBracket .round .openParen
    | ')' => s.closeBracket .round .closeParen
    | '[' => s.openBracket .square .openBracket
    | ']' => s.closeBracket .square .closeBracket
    | '\x7d' => (s.closeBracket .field .closeField).map fun s => { s with mode := .formatted false }
    | '!' => if s.brackets.head? = some .field then some { s with mode := .conversion } else none
    | ',' => s.emit .comma
    | ':' => s.emit .colon
    | '*' => s.emit .star
    | '|' => s.emit .bar
    | '@' => s.emit .atSign
    | _ => none

def codeAfter (s : Scanner) (t : Token) (c : Char) : Option Scanner :=
  match s.emit t with
  | some s => s.code c
  | none => none

def step (s : Scanner) (c : Char) : Option Scanner :=
  match s.mode with
  | .margin n =>
    if c = ' ' then some { s with mode := .margin (n + 1) }
    else if c = '\n' then some { s with mode := .margin 0 }
    else code { s with line := { column := n } } c
  | .code => s.code c
  | .word cs =>
    if Identifier.isPart c then some { s with mode := .word (cs ++ [c]) }
    else if c = '"' then
      if cs = ['f'] ∧ .field ∉ s.brackets then (s.emit .openFormat).map fun s => { s with mode := .formatted true } else none
    else s.codeAfter (.ofWord (String.ofList cs)) c
  | .dots 1 =>
    if c = '.' then some { s with mode := .dots 2 } else if c.isDigit then none else s.codeAfter .dot c
  | .dots _ => if c = '.' then s.emit .ellipsis else none
  | .minus => if c = '>' then s.emit .arrow else none
  | .equals => if c = '=' then s.emit .same else s.codeAfter .equals c
  | .opened =>
    if c = '"' then some { s with mode := .doubled }
    else if isForbidden c then none else some { s with mode := .short }
  | .doubled => if c = '"' then some { s with mode := .long (.inside 0) } else s.codeAfter .text c
  | .short =>
    if c = '"' then s.emit .text else if isForbidden c then none else some s
  | .long (.inside n) =>
    if c = '"' then if n = 2 then s.emit .text else some { s with mode := .long (.inside (n + 1)) }
    else if c = '\\' then some { s with mode := .long .escaped } else some { s with mode := .long (.inside 0) }
  | .long .escaped => if c = '\\' ∨ c = '"' then some { s with mode := .long (.inside 0) } else none
  | .formatted fresh =>
    if c = '"' then if fresh then none else s.emit .closeFormat
    else if c = '\x7b' then s.openBracket .field .openField
    else if c = '\x7d' ∨ isForbidden c then none else some { s with mode := .formatted false }
  | .conversion => if c = 'r' ∨ c = 's' ∨ c = 'a' then some { s with mode := .converted } else none
  | .converted => if c = '\x7d' then s.code c else none

def run (s : Scanner) (cs : List Char) : Option Scanner := cs.foldlM step s

end Scanner

def lines? (cs : List Char) : Option (List Line) :=
  ({} : Scanner).run cs |>.bind fun s => match s.mode with
    | .margin _ => some s.lines
    | _ => none

end DomainModel.Target
