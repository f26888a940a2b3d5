import DomainModel.Text.Word

/-!
# Terminals

The terminals of the declaration language. `width?` is the length of the lexeme that a terminal has
at the head of a text; `lex?` chooses among the terminals that may stand there. A name and a keyword
compete only where both may stand, and then the keyword has to be the whole word.
-/

namespace DomainModel

inductive Terminal
  | record
  | sum
  | synonym
  | pub
  | name
  | doc
  | number
  | string
  | atSign
  | openBrace
  | closeBrace
  | openParen
  | closeParen
  | openBracket
  | closeBracket
  | comma
  | colon
  | equals
  | dot
deriving Repr, DecidableEq

namespace Terminal

/-! ## Lexemes -/

/-- The one spelling of a keyword or a sign; a class of lexemes has none. -/
def spelling : Terminal → List Char
  | record => "record".toList
  | sum => "sum".toList
  | synonym => "alias".toList
  | pub => "pub".toList
  | atSign => ['@']
  | openBrace => ['\x7b']
  | closeBrace => ['\x7d']
  | openParen => ['(']
  | closeParen => [')']
  | openBracket => ['[']
  | closeBracket => [']']
  | comma => [',']
  | colon => [':']
  | equals => ['=']
  | dot => ['.']
  | name | doc | number | string => []

def spellingWidth? (spelling cs : List Char) : Option Nat :=
  if spelling.isPrefixOf cs then some spelling.length else none

def lineWidth (cs : List Char) : Nat := (cs.takeWhile (· ≠ '\n')).length

def docWidth? : List Char → Option Nat
  | '#' :: ':' :: cs => some (lineWidth cs + 2)
  | _ => none

def digitsWidth (cs : List Char) : Nat := (cs.takeWhile Char.isDigit).length

def signWidth : List Char → Nat
  | '+' :: _ | '-' :: _ => 1
  | _ => 0

/-- The length of the exponent at the head of a text; zero if there is none. -/
def exponentWidth : List Char → Nat
  | c :: cs =>
    if c = 'e' ∨ c = 'E' then
      let digits := digitsWidth (cs.drop (signWidth cs))
      if digits = 0 then 0 else 1 + signWidth cs + digits
    else 0
  | [] => 0

def unsignedWidth? (cs : List Char) : Option Nat :=
  let whole := digitsWidth cs
  match cs.drop whole with
  | '.' :: rest =>
    let part := digitsWidth rest
    if whole + part = 0 then none
    else some (whole + 1 + part + exponentWidth (rest.drop part))
  | rest => if whole = 0 then none else some (whole + exponentWidth rest)

def numberWidth? (cs : List Char) : Option Nat :=
  (unsignedWidth? (cs.drop (signWidth cs))).map (signWidth cs + ·)

/-- The length of a string behind its opening quote: up to the first quote with an even number of
backslashes before it, on the same line. -/
def closingWidth? (escaped : Bool) : List Char → Option Nat
  | [] => none
  | c :: cs =>
    if c = '\n' then none
    else if c = '"' ∧ ¬escaped then some 1
    else (closingWidth? (c = '\\' && !escaped) cs).map (· + 1)

def stringWidth? : List Char → Option Nat
  | '"' :: cs => (closingWidth? false cs).map (· + 1)
  | _ => none

def width? : Terminal → List Char → Option Nat
  | name, cs => Word.width? cs
  | doc, cs => docWidth? cs
  | number, cs => numberWidth? cs
  | string, cs => stringWidth? cs
  | t, cs => spellingWidth? t.spelling cs

/-! ## Choosing a terminal -/

def keywords : List Terminal := [record, sum, synonym, pub]

/-- The order in which the terminals are tried: a class of lexemes before single spellings. -/
def inOrder : List Terminal :=
  [name, doc, number, string, record, sum, synonym, pub, atSign, openBrace, closeBrace, openParen,
   closeParen, openBracket, closeBracket, comma, colon, equals, dot]

def ofWord (accepts : Terminal → Bool) (word : List Char) : Terminal :=
  (keywords.find? fun k => accepts k && k.spelling = word).getD name

/-- The acceptable terminal at the head of a text, and the length of its lexeme. -/
def lex? (accepts : Terminal → Bool) (cs : List Char) : Option (Terminal × Nat) :=
  match (inOrder.filter accepts).findSome? fun t => (t.width? cs).map (t, ·) with
  | some (name, n) => some (ofWord accepts (cs.take n), n)
  | found => found

end Terminal

end DomainModel
