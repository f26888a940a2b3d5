/-!
# Words

The names of a declaration file are words of ASCII letters, digits and underscores that do not start
with a digit.
-/

namespace DomainModel.Word

def isStart (c : Char) : Bool := c.isAlpha || c = '_'

def isPart (c : Char) : Bool := c.isAlphanum || c = '_'

def width? : List Char → Option Nat
  | [] => none
  | c :: cs => if isStart c then some ((cs.takeWhile isPart).length + 1) else none

end DomainModel.Word
