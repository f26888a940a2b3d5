import DomainModel.Text.Lines

/-!
# Documentation strings

Documentation lines become a literal between triple quotes. A single line stays on the line of its
quotes unless it ends in a quote itself; otherwise the closing quotes have a line of their own.
-/

namespace DomainModel.Docstring

def quotes : List Char := ['"', '"', '"']

/-- Backslashes are doubled, and each quote of a triple is escaped. -/
def escape : List Char → List Char
  | [] => []
  | '"' :: '"' :: '"' :: cs => '\\' :: '"' :: '\\' :: '"' :: '\\' :: '"' :: escape cs
  | c :: cs => if c = '\\' then '\\' :: '\\' :: escape cs else c :: escape cs

/-- The literal of documentation lines; without lines there is none. -/
def encode (lines : List (List Char)) : List Char :=
  match lines.map escape with
  | [] => []
  | [line] => if line.getLast? = some '"' then quotes ++ line ++ '\n' :: quotes
    else quotes ++ line ++ quotes
  | lines => quotes ++ Lines.join lines ++ '\n' :: quotes

/-- What a literal says, read from behind its opening quotes: a backslash gives the character
after it, and the first three quotes in a row end it. -/
def decode : List Char → List Char
  | [] => []
  | '"' :: '"' :: '"' :: _ => []
  | '\\' :: c :: cs => c :: decode cs
  | c :: cs => c :: decode cs

def text (docs : List String) : String := String.ofList (encode (docs.map String.toList))

def bodyText (docs : List String) : String :=
  String.ofList (Lines.indent (encode (docs.map String.toList)))

end DomainModel.Docstring
