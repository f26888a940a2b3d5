import DomainModel.Proofs.Target.Scanner
import DomainModel.Text.PrivateName

/-!
# Blocks of generated modules

Lines of one column make a block; a block stands behind a line that opens one, in a column of its own. What may stand
in a block depends on the class and the function around it.
-/

namespace DomainModel.Target

structure Context where
  owner : Option String := none
  inFunction : Bool := false
deriving Repr, DecidableEq

inductive Need
  | nothing
  | definition
  | cleanup
deriving Repr, DecidableEq

structure Block where
  column : Nat
  context : Context := {}
  /-- Whether it holds the alternatives of a choice. -/
  isChoice : Bool := false
  need : Need := .nothing
deriving Repr, DecidableEq

namespace Block

def Context.spell (c : Context) (n : String) : String :=
  match c.owner with
  | none => Compatible.name n
  | some owner => PrivateName.spell (Compatible.name owner) (Compatible.name n)

def admits (b : Block) (l : Line) : Bool :=
  (match b.need with
    | .nothing => l.form ≠ .cleanup
    | .definition => l.form = .decorator ∨ l.form = .function ∨ l.form = .cls
    | .cleanup => l.form = .cleanup) &&
  (l.form = .alternative ↔ b.isChoice) &&
  match l.form with
    | .future => false
    | .result => b.context.inFunction
    | .function => (l.names.map (Context.spell b.context)).Nodup
    | _ => true

def needAfter : Form → Need
  | .decorator => .definition
  | .attempt => .cleanup
  | _ => .nothing

/-- The context of the block that a line opens, and whether that is a choice; most lines open none. -/
def opens? (c : Context) (l : Line) : Option (Context × Bool) :=
  match l.form with
  | .cls => some ({ owner := l.names.head? }, false)
  | .function => some ({ c with inFunction := true }, false)
  | .branch | .attempt | .cleanup | .alternative => some (c, false)
  | .choice => some (c, true)
  | .plain | .text | .future | .result | .decorator => none

end Block

/-- The blocks that are not at their end, the innermost first, and what a line has opened. -/
structure Blocks where
  open? : Option (Context × Bool) := none
  blocks : List Block := [{ column := 0 }]
deriving Repr, DecidableEq

namespace Blocks

def close (column : Nat) : List Block → Option (List Block)
  | [] => none
  | b :: bs =>
    if b.column = column then some (b :: bs)
    else if column < b.column ∧ b.need = .nothing then close column bs
    else none

def put (l : Line) : List Block → Option Blocks
  | [] => none
  | b :: bs =>
    if b.admits l then some ⟨Block.opens? b.context l, { b with need := Block.needAfter l.form } :: bs⟩ else none

def step (s : Blocks) (l : Line) : Option Blocks :=
  match s.open?, s.blocks with
  | some (context, isChoice), b :: bs =>
    if b.column < l.column then put l ({ column := l.column, context, isChoice } :: b :: bs) else none
  | some _, [] => none
  | none, bs => (close l.column bs).bind (put l)

def run (s : Blocks) (ls : List Line) : Option Blocks := ls.foldlM step s

def IsClosed (s : Blocks) : Prop := s.open? = none ∧ ∀ b ∈ s.blocks, b.need = .nothing

instance (s : Blocks) : Decidable s.IsClosed := inferInstanceAs (Decidable (_ ∧ _))

end Blocks

/-- The lines behind the documentation of a module and what it takes from the future of the language. -/
def afterHead (ls : List Line) : List Line :=
  let rest := match ls with
    | ⟨0, .text, _⟩ :: ls => ls
    | ls => ls
  rest.dropWhile fun l => l.column = 0 ∧ l.form = .future

def isModule (ls : List Line) : Bool :=
  match ({} : Blocks).run (afterHead ls) with
  | some s => s.IsClosed
  | none => false

def IsModule (text : String) : Prop :=
  '\x00' ∉ text.toList ∧ ∃ ls, lines? text.toList = some ls ∧ isModule ls

end DomainModel.Target
