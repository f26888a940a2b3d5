import DomainModel.Source.Terminal

/-!
# Lexical contexts

What a reader has just taken decides which terminals it tries next. A context is wider than what can
really follow there: after a name, say, everything is tried that follows a name somewhere in the
language, and what does not fit is refused when it has been read.
-/

namespace DomainModel

inductive Context
  | topLevel
  | afterDoc
  /-- Where only a name may stand, so that no word is a keyword. -/
  | nameOnly
  /-- After the name of a declaration, a directive, a field or a variant. -/
  | afterName
  | afterDirective
  | arguments
  | argumentValue
  /-- After a word that is an argument's value or its name. -/
  | afterWord
  | afterValue
  | afterTypeName
  | afterTypeArguments
  | fields
  | variants
deriving Repr, DecidableEq

namespace Context

open Terminal

def terminals : Context → List Terminal
  | topLevel => [doc, atSign, record, sum, synonym]
  | afterDoc => [doc, atSign, record, sum, synonym, pub, name]
  | nameOnly => [name]
  | afterName => [openBrace, equals, colon, openParen, atSign, record, sum, synonym]
  | afterDirective => [atSign, record, sum, synonym]
  | arguments => [closeParen, name, number, string]
  | argumentValue => [name, number, string]
  | afterWord => [closeParen, comma, equals]
  | afterValue => [closeParen, comma]
  | afterTypeName =>
    [dot, openBracket, closeBracket, comma, closeParen, closeBrace, doc, atSign, record, sum,
     synonym, pub, name]
  | afterTypeArguments =>
    [closeBracket, comma, closeParen, closeBrace, doc, atSign, record, sum, synonym, pub, name]
  | fields => [doc, pub, name, closeBrace]
  | variants => [doc, name, closeBrace]

def accepts (c : Context) (t : Terminal) : Bool := t ∈ c.terminals

end Context

end DomainModel
