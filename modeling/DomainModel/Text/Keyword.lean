/-!
# Reserved words

The words of the generated module's language that no class, field or variant may be called.
-/

namespace DomainModel.Keyword

def reserved : List String :=
  ["False", "None", "True", "and", "as", "assert", "async", "await", "break", "class", "continue",
   "def", "del", "elif", "else", "except", "finally", "for", "from", "global", "if", "import", "in",
   "is", "lambda", "nonlocal", "not", "or", "pass", "raise", "return", "try", "while", "with",
   "yield"]

def isReserved (word : String) : Bool := word ∈ reserved

end DomainModel.Keyword
