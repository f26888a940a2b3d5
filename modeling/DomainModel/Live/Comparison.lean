import DomainModel.Live.Attribute

/-!
# Comparison

When two values are equal, which of them comes first, when a value counts as true, and what it is
hashed by.
-/

namespace DomainModel.Live

open Run

def Order.method : Order → String
  | less => "__lt__"
  | lessEqual => "__le__"
  | greater => "__gt__"
  | greaterEqual => "__ge__"

def Order.flip : Order → Order
  | less => greater
  | lessEqual => greaterEqual
  | greater => less
  | greaterEqual => lessEqual

def Order.holds : Order → Ordering → Bool
  | less, o => o = .lt
  | lessEqual, o => o ≠ .gt
  | greater, o => o = .gt
  | greaterEqual, o => o ≠ .lt

namespace Comparison

-- Powers mean the same under all imports.
attribute [local instance (high)] instPowNat

def undecidedUnless (b : Bool) : Value := if b then .truth true else .undecided

/-! ## Equality -/

/-- Two values compared as one container compares its items with another's: a value equals itself.
-/
def sameItem (ask : Answering) (a b : Value) : Run Bool := do
  if Value.identical a b then return true else ask.isTrue (← ask (.equal a b))

/-- Whether the items of two lists are equal, one by one. -/
def sameItems (ask : Answering) : List Value → List Value → Run Bool
  | [], [] => return true
  | a :: as, b :: bs => do
    if ← sameItem ask a b then sameItems ask as bs else return false
  | [], _ :: _ | _ :: _, [] => return false

def sameEntries (ask : Answering) (entries : List (Value × Value)) :
    List (Value × Value) → Run Bool
  | [] => return true
  | e :: es => do
    match World.keyed? entries e.1 with
    | some x => if ← sameItem ask e.2 x then sameEntries ask entries es else return false
    | none => return false

/-- A comparison as an instance's class has it. A class whose own way of comparing cannot even be
read leaves the result to the other value. -/
def byMethod (ask : Answering) (name : String) (self other inherited : Value) : Run Value := do
  let w ← world
  if Attribute.hasOwn w (w.classOf self) name then
    match ← attempt (Attribute.special? ask self name) with
    | .ok (some m) => ask.call m [other]
    | _ => return .undecided
  else return inherited

def half (ask : Answering) (self other : Value) : Run Value := do
  let w ← world
  let inherited := undecidedUnless (Value.identical self other)
  match self.number?, other.number? with
  | some m, some n => return .truth (m = n)
  | some _, none => return .undecided
  | none, _ =>
    match self, w.cell? self, other, w.cell? other with
    | .text s _, _, .text t _, _ => return .truth (s = t)
    | _, some (.object _ _ _), _, _ => byMethod ask "__eq__" self other inherited
    | _, some (.list as), _, some (.list bs) =>
      if as.length = bs.length then return .truth (← sameItems ask as bs) else return .truth false
    | _, some (.dict as), _, some (.dict bs) =>
      if as.length = bs.length then return .truth (← sameEntries ask bs as)
      else return .truth false
    | _, some (.bytes as), _, some (.bytes bs) => return .truth (as = bs)
    | _, some (.union as), _, some (.union bs) =>
      return .truth (as.all (· ∈ bs) && bs.all (· ∈ as))
    | _, some (.method a f), _, some (.method b g) =>
      return .truth (Value.identical a b && f = g)
    | _, _, _, _ =>
      match w.tuple? self, w.tuple? other with
      | some as, some bs =>
        if as.length = bs.length then return .truth (← sameItems ask as bs)
        else return .truth false
      | _, _ => return inherited

/-- What one of two values says, or else the other: the first value is asked before the second,
unless the second is of a class that builds on the first's. -/
def either (a b : Value) (first second : Run Value) : Run Value := do
  let w ← world
  let (ca, cb) := (w.classOf a, w.classOf b)
  let backFirst : Bool := ca ≠ cb && w.isSubclass cb ca
  let (x, y) := if backFirst then (second, first) else (first, second)
  let answer ← x
  if answer = .undecided then y else return answer

/-- Equality; if neither value says anything, a value equals only itself. -/
def equal (ask : Answering) (a b : Value) : Run Value := do
  let answer ← either a b (half ask a b) (half ask b a)
  if answer = .undecided then return .truth (Value.identical a b) else return answer

/-! ## Order -/

def orderItems (ask : Answering) (o : Order) : List Value → List Value → Run Value
  | [], [] => return .truth (o.holds .eq)
  | [], _ :: _ => return .truth (o.holds .lt)
  | _ :: _, [] => return .truth (o.holds .gt)
  | a :: as, b :: bs => do
    if ← sameItem ask a b then orderItems ask o as bs else ask (.order o a b)

def orderHalf (ask : Answering) (o : Order) (self other : Value) : Run Value := do
  let w ← world
  match self.number?, other.number?, self, w.cell? self, other, w.cell? other with
  | some m, some n, _, _, _, _ => return .truth (o.holds (compare m n))
  | _, _, .text s _, _, .text t _, _ => return .truth (o.holds (compare s t))
  | _, _, _, some (.object _ _ _), _, _ => byMethod ask o.method self other .undecided
  | _, _, _, some (.list as), _, some (.list bs) => orderItems ask o as bs
  | _, _, _, some (.bytes as), _, some (.bytes bs) => return .truth (o.holds (compare as bs))
  | _, _, _, _, _, _ =>
    match w.tuple? self, w.tuple? other with
    | some as, some bs => orderItems ask o as bs
    | _, _ => return .undecided

def order (ask : Answering) (o : Order) (a b : Value) : Run Value := do
  let answer ← either a b (orderHalf ask o a b) (orderHalf ask o.flip b a)
  if answer = .undecided then unsuitable else return answer

/-! ## Truth -/

def lengthOf (ask : Answering) (m : Value) : Run Int := do
  match (← ask.call m []).number? with
  | some n => if n < 0 then fail .badValue else return n
  | none => unsuitable

/-- Whether a value counts as true: nothing, zero and what is empty do not. -/
def truth (ask : Answering) (v : Value) : Run Bool := do
  let w ← world
  match v.number?, v, w.sequence? v, w.cell? v with
  | some n, _, _, _ => return n ≠ 0
  | none, .nothing, _, _ => return false
  | none, _, some items, _ => return !items.isEmpty
  | none, _, none, some (.object _ _ _) =>
    match ← Attribute.special? ask v "__bool__" with
    | some m =>
      match ← ask.call m [] with
      | .truth b => return b
      | _ => unsuitable
    | none =>
      match ← Attribute.special? ask v "__len__" with
      | some m => return (← lengthOf ask m) ≠ 0
      | none => return true
  | none, _, none, _ => return true

/-! ## Hashes -/

def hashNumber (n : Int) : Int :=
  let m : Nat := n.natAbs % (2 ^ (61 : Nat) - 1)
  let h : Int := if n < 0 then -(m : Int) else m
  if h = -1 then -2 else h

def keyOf? (w : World) (v : Value) : Option HashKey :=
  match v.number?, w.cell? v with
  | some n, _ => some (.number (hashNumber n))
  | none, some (.hash key) => some key
  | none, _ => none

def ofKey (key : HashKey) : Run Value :=
  match key with
  | .number n => integer n
  | _ => allocate (.hash key)

def bytesKey (bs : List Nat) : HashKey := if bs.isEmpty then .number 0 else .bytes bs

/-- The bytes of a number, the lowest first. -/
def littleEndian : (width : Nat) → Nat → List Nat
  | 0, _ => []
  | width + 1, n => n % 256 :: littleEndian width (n / 256)

/-- A text is hashed by the bytes of its characters; all have as many as the widest one needs. -/
def textKey (s : String) : HashKey :=
  let widest := (s.toList.map Char.toNat).foldl max 0
  let width := if widest < 0x100 then 1 else if widest < 0x10000 then 2 else 4
  bytesKey (s.toList.flatMap fun c => littleEndian width c.toNat)

def hashKey (ask : Answering) (v : Value) : Run HashKey := do
  let w ← world
  let ofValue (x : Value) : Run HashKey := do
    let h ← ask (.hash x)
    match keyOf? (← world) h with
    | some key => return key
    | none => unsuitable
  match v.number?, v, w.cell? v with
  | some n, _, _ => return .number (hashNumber n)
  | none, .text s _, _ => return textKey s
  | none, .names ns, _ => return ns.foldr (fun n key => .pair (textKey n) key) .empty
  | none, .described "dict" _, _ => unsuitable
  | none, _, some (.list _) | none, _, some (.dict _) => unsuitable
  | none, _, some (.bytes bs) => return bytesKey bs
  | none, _, some (.tuple items) =>
    let keys ← items.mapM ofValue
    return keys.foldr .pair .empty
  | none, _, some (.hash key) => return key
  | none, _, some (.method self f) => return .pair (.identity self) (.identity f)
  | none, _, some (.object c _ _) =>
    match w.bound? c "__hash__" with
    | some .nothing => unsuitable
    | some (.native _ _) | none => return .identity v
    | some _ =>
      match ← attempt (Attribute.special? ask v "__hash__") with
      | .ok (some m) =>
        let h ← ask.call m []
        match keyOf? (← world) h with
        | some key => return key
        | none => unsuitable
      | _ => unsuitable
  | none, _, _ => return .identity v

def hash (ask : Answering) (v : Value) : Run Value := do ofKey (← hashKey ask v)

end Comparison

end DomainModel.Live
