import DomainModel.Diagnostic
import DomainModel.Source.Reader

/-!
# Reading a text

`Reader.run` scans a text and feeds its tokens to the reader. A place that no acceptable terminal
matches is scanned again with all terminals, so that the error names a whole token if there is one.
-/

namespace DomainModel

def isBlank (c : Char) : Bool := c = ' ' || c = '\t' || c = '\x0c' || c = '\r' || c = '\n'

/-- The length of the comment at the head of a text; zero if there is none. A comment mark with a
colon starts a documentation line instead. -/
def commentWidth : List Char → Nat
  | '#' :: ':' :: _ => 0
  | '#' :: cs => Terminal.lineWidth cs + 1
  | _ => 0

/-- The length of what is passed over at the head of a text: a blank or a comment. -/
def skipWidth : List Char → Nat
  | [] => 0
  | c :: cs => if isBlank c then 1 else commentWidth (c :: cs)

structure SyntaxError where
  fault : SyntaxFault
  position : Position
deriving Repr, DecidableEq

namespace Reader

def refuse (position : Position) (c : Char) (cs : List Char) : SyntaxError :=
  match Terminal.lex? (fun _ => true) (c :: cs) with
  | some (_, n) => ⟨.unexpectedToken (String.ofList ((c :: cs).take n)), position⟩
  | none => ⟨.unexpectedCharacter c, position⟩

/-- Reads a text to its end. `last` is the place of the token before, where an end that comes too
soon is reported. -/
def run (r : Reader) (position last : Position) (text : List Char) :
    Except SyntaxError (List Declaration) :=
  match text with
  | [] =>
    match r.finish? with
    | some declarations => .ok declarations
    | none => .error ⟨.unexpectedEnd, last⟩
  | c :: cs =>
    match skipWidth (c :: cs) with
    | n + 1 => run r (position.after ((c :: cs).take (n + 1))) last (cs.drop n)
    | 0 =>
      match Terminal.lex? r.context.accepts (c :: cs) with
      | none => .error (refuse position c cs)
      | some (terminal, n) =>
        let lexeme := (c :: cs).take n
        match r.step ⟨terminal, String.ofList lexeme, position⟩ with
        | some r => run r (position.after lexeme) position (cs.drop (n - 1))
        | none => .error ⟨.unexpectedToken (String.ofList lexeme), position⟩
termination_by text.length

end Reader

/-- The declarations that a text holds, before the rules on names are checked. -/
def readDeclarations (text : String) (file : Option String) :
    Except SyntaxError (List Declaration) :=
  (Reader.start file).run .start .start text.toList

end DomainModel
