/-!
# Positions in a declaration file

Lines and columns are counted from one, a column is one character wide, and only a line feed starts
a new line. A `Location` is what a declaration remembers of the place where its name stood.
-/

namespace DomainModel

structure Position where
  line : Nat
  column : Nat
deriving Repr, DecidableEq

namespace Position

def start : Position := ⟨1, 1⟩

def next (p : Position) (c : Char) : Position :=
  if c = '\n' then ⟨p.line + 1, 1⟩ else ⟨p.line, p.column + 1⟩

def after (p : Position) (cs : List Char) : Position := cs.foldl next p

@[simp] theorem after_nil (p : Position) : p.after [] = p := rfl

@[simp] theorem after_cons (p : Position) (c : Char) (cs : List Char) :
    p.after (c :: cs) = (p.next c).after cs := rfl

theorem after_append (p : Position) (cs ds : List Char) :
    p.after (cs ++ ds) = (p.after cs).after ds := List.foldl_append

end Position

/-- Where an element of a declaration file is named; integers, because a location may also be given
from outside. -/
structure Location where
  line : Int
  column : Int
  file : Option String
deriving Repr, DecidableEq

namespace Location

def ofPosition (file : Option String) (p : Position) : Location := ⟨p.line, p.column, file⟩

/-- A file without a name, or with an empty one, is shown as the input. -/
def fileText (l : Location) : String :=
  match l.file with
  | none | some "" => "<input>"
  | some f => f

def text (l : Location) : String := s!"{l.fileText}:{l.line}:{l.column}"

end Location

end DomainModel
