import DomainModel.Live.Attribute
import DomainModel.Text.Quoted
import DomainModel.Text.WholeNumber

/-!
# Display

The text that shows a value as it would be written, and the text of a value. A container within
itself is left out.
-/

namespace DomainModel.Live

open Run

namespace Display

/-- Texts in parentheses; a single one has a comma behind it. -/
def parenthesize (parts : List String) : String :=
  "(" ++ ", ".intercalate parts ++ (if parts.length = 1 then ",)" else ")")

/-- Bytes, shown: those that are printable in ASCII stand for themselves. -/
def bytes (bs : List Nat) : String :=
  let one (n : Nat) : String :=
    if n = 0x5c then "\\\\"
    else if n = 9 then "\\t" else if n = 10 then "\\n" else if n = 13 then "\\r"
    else if 0x20 ≤ n ∧ n < 0x7f then String.singleton (Char.ofNat n)
    else "\\x" ++ String.ofList (Quoted.hex 2 n)
  if 0x27 ∈ bs ∧ 0x22 ∉ bs then "b\"" ++ String.join (bs.map one) ++ "\""
  else "b'" ++ String.join (bs.map fun n => if n = 0x27 then "\\'" else one n) ++ "'"

/-- What shows an instance whose class has no way of its own to show one. -/
def plain (w : World) (c : ClassRef) : String :=
  "<" ++ (w.home? c).getD "builtins" ++ "." ++ (w.info c).qualname ++ " object>"

def native (owner name : String) : String :=
  let of (kind : String) : String :=
    "<" ++ kind ++ " " ++ Quoted.text name ++ " of " ++ Quoted.text owner ++ " objects>"
  match Builtin.memberKind? owner name with
  | some .operator => of "slot wrapper"
  | some .data => of (if Builtin.isPlace owner name then "member" else "attribute")
  | some .method | some .ofClass => of "method"
  | some .free => "<built-in method " ++ name ++ " of type object>"
  | none => "<built-in function " ++ name ++ ">"

/-- A method is shown by its function and the value that it belongs to. -/
def method (ask : Answering) (self f : Value) : Run String := do
  match f with
  | .native owner name =>
    let kind := if Builtin.memberKind? owner name = some .operator then "method-wrapper"
      else "built-in method"
    return "<" ++ kind ++ " " ++ Quoted.text name ++ ">"
  | _ => do
    let name := ((← ask.read? f "__qualname__").bind Value.text?).getD "?"
    return "<bound method " ++ name ++ " of " ++ (← ask.shown self) ++ ">"

/-! ## Exceptions -/

def argumentsOf (w : World) (v : Value) : List Value :=
  ((w.slot? v (exceptionSlot "args")).bind w.tuple?).getD []

def exception (ask : Answering) (v : Value) : Run String := do
  let w ← world
  let parts ← (argumentsOf w v).mapM ask.shown
  return (w.info (w.classOf v)).name ++ "(" ++ ", ".intercalate parts ++ ")"

/-- The text of an exception is that of its only argument, or the tuple of all of them. -/
def exceptionText (ask : Answering) (v : Value) : Run String := do
  match argumentsOf (← world) v with
  | [] => return ""
  | [x] => ask.textOf x
  | items => return parenthesize (← items.mapM ask.shown)

/-! ## All values -/

/-- Shows the items of a container, which is marked for as long as that takes. -/
def within (address : Nat) (inner : Run String) : Run String := fun w =>
  match inner { w with shown := address :: w.shown } with
  | (answer, after) => (answer, { after with shown := w.shown })

def byMethod (ask : Answering) (m : Value) : Run String := do
  match (← ask.call m []).text? with
  | some s => return s
  | none => unsuitable

/-- Shows an instance. A class whose own way of showing cannot even be read has none. -/
def object (ask : Answering) (v : Value) (c : ClassRef) : Run String := do
  let w ← world
  match w.bound? c "__repr__" with
  | some (.native "BaseException" _) => exception ask v
  | some (.native _ _) | none => return plain w c
  | some _ =>
    match ← attempt (Attribute.special? ask v "__repr__") with
    | .ok (some m) => byMethod ask m
    | _ => return plain w c

def alternative (w : World) : Value → String
  | .cls c => if c = .builtin "NoneType" then "None" else w.pathOf c
  | .described _ s => s
  | _ => "?"

/-- Shows a container, unless it is being shown already. -/
def cell (ask : Answering) (v : Value) (a : Nat) (c : Cell) : Run String := do
  let w ← world
  let items (start : String) (xs : List Value) (stop : String) : Run String :=
    if a ∈ w.shown then return start ++ "..." ++ stop
    else within a do return start ++ ", ".intercalate (← xs.mapM ask.shown) ++ stop
  match c with
  | .list xs => items "[" xs "]"
  | .tuple [x] => items "(" [x] ",)"
  | .tuple xs => items "(" xs ")"
  | .dict entries =>
    if a ∈ w.shown then return "\x7b...\x7d"
    else within a do
      let parts ← entries.mapM fun e => do
        return (← ask.shown e.1) ++ ": " ++ (← ask.shown e.2)
      return "\x7b" ++ ", ".intercalate parts ++ "\x7d"
  | .bytes bs => return bytes bs
  | .method self f => method ask self f
  | .union alternatives => return " | ".intercalate (alternatives.map (alternative w))
  | .hash _ => return "0"
  | .object c _ _ => object ask v c

def repr (ask : Answering) (v : Value) : Run String := do
  let w ← world
  match v with
  | .nothing => return "None"
  | .undecided => return "NotImplemented"
  | .truth b => return if b then "True" else "False"
  | .integer n _ =>
    match WholeNumber.text? n with
    | some s => return s
    | none => fail .badValue
  | .text s _ => return Quoted.text s
  | .names ns => return parenthesize (ns.map Quoted.text)
  | .nameSet [] => return "frozenset()"
  | .nameSet ns =>
    return "frozenset(\x7b" ++ ", ".intercalate (ns.map Quoted.text) ++ "\x7d)"
  | .cls c => return w.shownClass c
  | .function _ => do
    return "<function " ++ (((← ask.read v "__qualname__").text?).getD "?") ++ ">"
  | .property _ _ => return "<property object>"
  | .classMethod _ => return "<classmethod>"
  | .slot owner name =>
    return "<member " ++ Quoted.text name ++ " of " ++ Quoted.text (w.info owner).name
      ++ " objects>"
  | .native owner name => return native owner name
  | .described _ s => return s
  | .cell a =>
    match w.cells[a]? with
    | none => unsuitable
    | some c => cell ask v a c

/-- The text of a value: of a text it is the text itself, of an instance what its class gives, and
of all else what shows it. -/
def text (ask : Answering) (v : Value) : Run Value := do
  let w ← world
  match v, w.cell? v with
  | .text _ _, _ => return v
  | .described "SafeUUID" _, _ => return .constant "SafeUUID.unknown"
  | _, some (.object c _ _) =>
    match w.bound? c "__str__" with
    | some (.native "BaseException" _) => Run.text (← exceptionText ask v)
    | some (.native _ _) | none => ask (.repr v)
    | some _ =>
      match ← Attribute.special? ask v "__str__" with
      | some m => Run.text (← byMethod ask m)
      | none => unsuitable
  | _, _ => ask (.repr v)

end Display

end DomainModel.Live
