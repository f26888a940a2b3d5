import DomainModel.Declaration
import DomainModel.Source.Context

/-!
# Reading declarations

A reader takes a file token by token. What it has taken of the declaration at hand is its `Point`,
which also fixes the lexical context of the next token; `step` takes one token and `finish?` ends
the file. `Reader.run` scans the text: blanks and comments are passed over, and the first text
that is no acceptable token, or a token that does not fit, ends the reading with an error at its
place.
-/

namespace DomainModel

structure Token where
  terminal : Terminal
  lexeme : String
  position : Position
deriving Repr, DecidableEq

structure Named where
  name : String
  location : Location
deriving Repr, DecidableEq

structure Header where
  docs : List String := []
  directives : List Directive := []
deriving Repr, DecidableEq

def Header.withDirective (h : Header) (n : Named) (arguments : List Argument) : Header :=
  { h with directives := h.directives ++ [⟨n.name, arguments, some n.location⟩] }

/-- The text of a documentation line: without its mark, the carriage returns at its end, and one
space. -/
def docText (lexeme : List Char) : String :=
  let line := ((lexeme.drop 2).reverse.dropWhile (· = '\r')).reverse
  String.ofList (match line with | ' ' :: rest => rest | line => line)

/-- The value of a lexeme that may stand as an argument: a string loses its quotes, and nothing in
it is an escape. -/
def Token.literal? (t : Token) : Option Literal :=
  match t.terminal with
  | .name => some (.text t.lexeme)
  | .string => some (.text (String.ofList (t.lexeme.toList.drop 1).dropLast))
  | .number => some (.ofNumeral (.ofLexeme t.lexeme.toList))
  | _ => none

/-! ## Types -/

inductive TypeHead
  | expected
  | dotted (name : String)
  | named (name : String)
  | closed (type : TypeRef)
deriving Repr, DecidableEq

/-- A type that is being read: the references around it that are still open, the innermost first,
each with the arguments it has so far, and the head. -/
structure TypePoint where
  outer : List TypeRef
  head : TypeHead
deriving Repr, DecidableEq

namespace TypePoint

def start : TypePoint := ⟨[], .expected⟩

def context (p : TypePoint) : Context :=
  match p.head with
  | .expected | .dotted _ => .nameOnly
  | .named _ => .afterTypeName
  | .closed _ => .afterTypeArguments

/-- The reference that the head is, if it can end here. -/
def inner? (p : TypePoint) : Option TypeRef :=
  match p.head with
  | .expected | .dotted _ => none
  | .named name => some ⟨name, []⟩
  | .closed t => some t

def type? (p : TypePoint) : Option TypeRef :=
  match p.outer with
  | [] => p.inner?
  | _ :: _ => none

def step (p : TypePoint) (t : Token) : Option TypePoint :=
  match t.terminal, p.head with
  | .name, .expected => some ⟨p.outer, .named t.lexeme⟩
  | .name, .dotted name => some ⟨p.outer, .named (name ++ "." ++ t.lexeme)⟩
  | .dot, .named name => some ⟨p.outer, .dotted name⟩
  | .openBracket, .named name => some ⟨⟨name, []⟩ :: p.outer, .expected⟩
  | .comma, _ =>
    match p.inner?, p.outer with
    | some inner, o :: outer => some ⟨⟨o.name, o.args ++ [inner]⟩ :: outer, .expected⟩
    | _, _ => none
  | .closeBracket, _ =>
    match p.inner?, p.outer with
    | some inner, o :: outer => some ⟨outer, .closed ⟨o.name, o.args ++ [inner]⟩⟩
    | _, _ => none
  | _, _ => none

end TypePoint

/-! ## Arguments, fields and variants -/

inductive ArgumentPoint
  | opened
  | separated
  /-- A word that is a value or, before an equals sign, the name of one. -/
  | word (lexeme : String)
  | assigned (name : String)
  | complete (argument : Argument)
deriving Repr, DecidableEq

namespace ArgumentPoint

def context : ArgumentPoint → Context
  | opened => .arguments
  | separated | assigned _ => .argumentValue
  | word _ => .afterWord
  | complete _ => .afterValue

def argument? : ArgumentPoint → Option Argument
  | word lexeme => some ⟨none, .text lexeme⟩
  | complete a => some a
  | opened | separated | assigned _ => none

/-- A token inside an argument: its name, the equals sign or its value. -/
def step (p : ArgumentPoint) (t : Token) : Option ArgumentPoint :=
  match p with
  | opened | separated =>
    if t.terminal = .name then some (word t.lexeme)
    else t.literal?.map fun v => complete ⟨none, v⟩
  | word lexeme => if t.terminal = .equals then some (assigned lexeme) else none
  | assigned name => t.literal?.map fun v => complete ⟨some name, v⟩
  | complete _ => none

end ArgumentPoint

inductive FieldPoint
  | start
  | documented (docs : List String)
  | exposed (docs : List String)
  | named (docs : List String) (visibility : Visibility) (name : Named)
  | typed (docs : List String) (visibility : Visibility) (name : Named) (type : TypePoint)
deriving Repr, DecidableEq

namespace FieldPoint

def context : FieldPoint → Context
  | start => .fields
  | documented _ => .afterDoc
  | exposed _ => .nameOnly
  | named _ _ _ => .afterName
  | typed _ _ _ type => type.context

end FieldPoint

inductive VariantPoint
  | start
  | documented (docs : List String)
  | named (docs : List String) (name : Named)
  | payload (docs : List String) (name : Named) (type : TypePoint)
deriving Repr, DecidableEq

namespace VariantPoint

def context : VariantPoint → Context
  | start => .variants
  | documented _ => .afterDoc
  | named _ _ => .afterName
  | payload _ _ type => type.context

end VariantPoint

/-! ## Declarations -/

inductive Point
  | opening
  | documented (docs : List String)
  | directiveSign (header : Header)
  | directiveNamed (header : Header) (name : Named)
  | arguments (header : Header) (name : Named) (taken : List Argument) (point : ArgumentPoint)
  | directed (header : Header)
  | keyword (header : Header) (kind : Kind)
  | named (header : Header) (kind : Kind) (name : Named)
  | fields (header : Header) (name : Named) (taken : List Field) (point : FieldPoint)
  | variants (header : Header) (name : Named) (taken : List Variant) (point : VariantPoint)
  | target (header : Header) (name : Named) (point : TypePoint)
deriving Repr, DecidableEq

def Point.context : Point → Context
  | opening => .topLevel
  | documented _ => .afterDoc
  | directiveSign _ | keyword _ _ => .nameOnly
  | directiveNamed _ _ | named _ _ _ => .afterName
  | arguments _ _ _ point => point.context
  | directed _ => .afterDirective
  | fields _ _ _ point => point.context
  | variants _ _ _ point => point.context
  | target _ _ point => point.context

/-- The declarations of a file that are complete, and the point within the next one. -/
structure Reader where
  file : Option String
  done : List Declaration
  point : Point
deriving Repr, DecidableEq

namespace Reader

def start (file : Option String) : Reader := ⟨file, [], .opening⟩

def context (r : Reader) : Context := r.point.context

def named (r : Reader) (t : Token) : Named := ⟨t.lexeme, .ofPosition r.file t.position⟩

def move (r : Reader) (point : Point) : Reader := { r with point }

def close (r : Reader) (d : Declaration) : Reader :=
  { r with done := r.done ++ [d], point := .opening }

def record (h : Header) (n : Named) (fields : List Field) : Declaration :=
  { kind := .record, name := n.name, directives := h.directives, docs := h.docs, fields
    location := some n.location }

def sum (h : Header) (n : Named) (variants : List Variant) : Declaration :=
  { kind := .sum, name := n.name, directives := h.directives, docs := h.docs, variants
    location := some n.location }

def synonym (h : Header) (n : Named) (target : TypeRef) : Declaration :=
  { kind := .synonym, name := n.name, directives := h.directives, docs := h.docs
    target := some target, location := some n.location }

/-- The next directive or the keyword, once the documentation lines are taken. -/
def stepHeader (r : Reader) (h : Header) (t : Token) : Option Reader :=
  match t.terminal with
  | .atSign => some (r.move (.directiveSign h))
  | .record => some (r.move (.keyword h .record))
  | .sum => some (r.move (.keyword h .sum))
  | .synonym => some (r.move (.keyword h .synonym))
  | _ => none

def stepOpening (r : Reader) (docs : List String) (t : Token) : Option Reader :=
  if t.terminal = .doc then some (r.move (.documented (docs ++ [docText t.lexeme.toList])))
  else r.stepHeader { docs } t

def stepArguments (r : Reader) (h : Header) (n : Named) (taken : List Argument) (p : ArgumentPoint)
    (t : Token) : Option Reader :=
  match t.terminal, p, p.argument? with
  | .closeParen, .opened, _ => some (r.move (.directed (h.withDirective n [])))
  | .closeParen, _, some a => some (r.move (.directed (h.withDirective n (taken ++ [a]))))
  | .comma, _, some a => some (r.move (.arguments h n (taken ++ [a]) .separated))
  | _, _, _ => (p.step t).map fun p => r.move (.arguments h n taken p)

def stepNamed (r : Reader) (h : Header) (k : Kind) (n : Named) (t : Token) : Option Reader :=
  match k, t.terminal with
  | .record, .openBrace => some (r.move (.fields h n [] .start))
  | .sum, .openBrace => some (r.move (.variants h n [] .start))
  | .synonym, .equals => some (r.move (.target h n .start))
  | _, _ => none

/-- Where a field may start: its documentation, its visibility or its name. -/
def stepField (r : Reader) (h : Header) (n : Named) (taken : List Field) (docs : List String)
    (t : Token) : Option Reader :=
  match t.terminal with
  | .doc => some (r.move (.fields h n taken (.documented (docs ++ [docText t.lexeme.toList]))))
  | .pub => some (r.move (.fields h n taken (.exposed docs)))
  | .name => some (r.move (.fields h n taken (.named docs .hidden (r.named t))))
  | _ => none

def stepFields (r : Reader) (h : Header) (n : Named) (taken : List Field) (t : Token) :
    Option Reader :=
  if t.terminal = .closeBrace then some (r.close (record h n taken))
  else r.stepField h n taken [] t

/-- Where a variant may start: its documentation or its name. -/
def stepVariant (r : Reader) (h : Header) (n : Named) (taken : List Variant) (docs : List String)
    (t : Token) : Option Reader :=
  match t.terminal with
  | .doc => some (r.move (.variants h n taken (.documented (docs ++ [docText t.lexeme.toList]))))
  | .name => some (r.move (.variants h n taken (.named docs (r.named t))))
  | _ => none

def step (r : Reader) (t : Token) : Option Reader :=
  match r.point with
  | .opening => r.stepOpening [] t
  | .documented docs => r.stepOpening docs t
  | .directiveSign h =>
    if t.terminal = .name then some (r.move (.directiveNamed h (r.named t))) else none
  | .directiveNamed h n =>
    if t.terminal = .openParen then some (r.move (.arguments h n [] .opened))
    else r.stepHeader (h.withDirective n []) t
  | .arguments h n taken p => r.stepArguments h n taken p t
  | .directed h => r.stepHeader h t
  | .keyword h k => if t.terminal = .name then some (r.move (.named h k (r.named t))) else none
  | .named h k n => r.stepNamed h k n t
  | .fields h n taken .start => r.stepFields h n taken t
  | .fields h n taken (.documented docs) => r.stepField h n taken docs t
  | .fields h n taken (.exposed docs) =>
    if t.terminal = .name then some (r.move (.fields h n taken (.named docs .exposed (r.named t))))
    else none
  | .fields h n taken (.named docs v f) =>
    if t.terminal = .colon then some (r.move (.fields h n taken (.typed docs v f .start))) else none
  | .fields h n taken (.typed docs v f p) =>
    match p.step t, p.type? with
    | some p, _ => some (r.move (.fields h n taken (.typed docs v f p)))
    | none, some type => r.stepFields h n (taken ++ [⟨f.name, type, v, docs, some f.location⟩]) t
    | none, none => none
  | .variants h n taken .start =>
    if t.terminal = .closeBrace then some (r.close (sum h n taken))
    else r.stepVariant h n taken [] t
  | .variants h n taken (.documented docs) => r.stepVariant h n taken docs t
  | .variants h n taken (.named docs v) =>
    if t.terminal = .openParen then some (r.move (.variants h n taken (.payload docs v .start)))
    else none
  | .variants h n taken (.payload docs v p) =>
    match p.step t, p.type?, t.terminal with
    | some p, _, _ => some (r.move (.variants h n taken (.payload docs v p)))
    | none, some type, .closeParen =>
      some (r.move (.variants h n (taken ++ [⟨v.name, type, docs, some v.location⟩]) .start))
    | none, _, _ => none
  | .target h n p =>
    match p.step t, p.type? with
    | some p, _ => some (r.move (.target h n p))
    | none, some type => (r.close (synonym h n type)).stepOpening [] t
    | none, none => none

def finish? (r : Reader) : Option (List Declaration) :=
  match r.point with
  | .opening => some r.done
  | .target h n p => p.type?.map fun type => r.done ++ [synonym h n type]
  | _ => none

end Reader

end DomainModel
