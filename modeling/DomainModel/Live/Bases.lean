import DomainModel.Live.World

/-!
# Bases

The order of the classes behind a class, and the layout of its instances, as its bases determine
them. Classes that do not go together have no order, or no layout.
-/

namespace DomainModel.Live

namespace Bases

-- Sums mean the same under all imports.
attribute [local instance (high)] Zero.ofOfNat0

/-! ## Order -/

/-- Merges linearisations: the first head that is in no tail comes next. There may be none. -/
def merge : (fuel : Nat) → List (List ClassRef) → Option (List ClassRef)
  | 0, _ => some []
  | fuel + 1, lists =>
    let lists := lists.filter (!·.isEmpty)
    if lists.isEmpty then some []
    else
      match (lists.filterMap List.head?).find? fun c => lists.all fun l => c ∉ l.tail with
      | none => none
      | some c =>
        (merge fuel (lists.map fun l => if l.head? = some c then l.tail else l)).map (c :: ·)

def linearize? (w : World) (bases : List ClassRef) : Option (List ClassRef) :=
  let lists := bases.map w.linearize ++ [bases]
  merge ((lists.map List.length).sum + 1) lists

/-! ## Layout -/

/-- The base whose instances those of a class with these bases extend: the first one whose layout
contains the others'. -/
def lead? (w : World) : (bases : List ClassRef) → Option ClassRef
  | [] => none
  | b :: bs =>
    bs.foldlM (fun best c =>
      let (x, y) := ((w.info best).layout, (w.info c).layout)
      if w.isSubclass x y then some best else if w.isSubclass y x then some c else none) b

/-- The nearest of a class and the classes it extends that adds something to the instances. -/
def foundation (w : World) : (fuel : Nat) → ClassRef → ClassRef
  | 0, c => c
  | fuel + 1, c =>
    let i := w.info c
    if w.isFixed c then i.layout
    else if i.places.isEmpty && !i.addsAttributes && !i.addsReferences then foundation w fuel i.lead
    else c

def foundationOf (w : World) (c : ClassRef) : ClassRef :=
  foundation w (w.linearize c).length c

/-- The names of the stored fields that a class adds, in order. -/
def sortedPlaces (i : ClassInfo) : List String := i.places.mergeSort fun a b => decide (a ≤ b)

/-- Whether instances of two classes are laid out alike: both classes extend the same one, by the
same places. -/
def areAlike (w : World) (c d : ClassRef) : Bool :=
  let (a, b) := (foundationOf w c, foundationOf w d)
  let (i, j) := (w.info a, w.info b)
  w.isFixed c == w.isFixed d &&
    (a == b || !w.isFixed a && !w.isFixed b && i.lead == j.lead && sortedPlaces i == sortedPlaces j
      && i.addsAttributes == j.addsAttributes && i.addsReferences == j.addsReferences)

/-- The stored fields of an instance, in the places that another class has for them. -/
def moveSlots (source target : ClassRef) (slots : List ((ClassRef × String) × Value)) :
    List ((ClassRef × String) × Value) :=
  slots.map fun s => if s.1.1 = source then ((target, s.1.2), s.2) else s

end Bases

end DomainModel.Live
