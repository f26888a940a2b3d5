/-!
# Likeness of texts

How much of two texts is the same: the longest run of characters that both have, with the runs
that are found likewise on its two sides. Texts are alike if such runs make up three fifths of
them.
-/

namespace DomainModel.Likeness

def common : List Char → List Char → Nat
  | a :: as, b :: bs => if a = b then common as bs + 1 else 0
  | _, _ => 0

/-- A run of characters that two texts share, by where it starts in each. -/
structure Run where
  left : Nat
  right : Nat
  size : Nat
deriving Repr, DecidableEq

/-- The longest shared run; of several the first in the left text, and of these the first in the
right one. -/
def longest (as bs : List Char) : Run :=
  (List.range as.length).foldl
    (fun best i =>
      (List.range bs.length).foldl
        (fun best j =>
          let size := common (as.drop i) (bs.drop j)
          if best.size < size then ⟨i, j, size⟩ else best)
        best)
    ⟨0, 0, 0⟩

/-- How many characters are in shared runs. The left text shrinks with every division, so that
`depth` need not exceed its length. -/
def shared : (depth : Nat) → List Char → List Char → Nat
  | 0, _, _ => 0
  | depth + 1, as, bs =>
    let run := longest as bs
    if run.size = 0 then 0
    else
      shared depth (as.take run.left) (bs.take run.right) + run.size
        + shared depth (as.drop (run.left + run.size)) (bs.drop (run.right + run.size))

def isAlike (a b : String) : Bool :=
  3 * (a.length + b.length) ≤ 2 * (5 * shared a.length a.toList b.toList)

end DomainModel.Likeness
