/-!
# Tables of character ranges

A property of characters is given as a list of inclusive ranges of code points, in ascending order.
-/

namespace DomainModel

abbrev Ranges := List (Nat × Nat)

def Ranges.has (ranges : Ranges) (c : Char) : Bool :=
  ranges.any fun r => r.1 ≤ c.toNat && c.toNat ≤ r.2

end DomainModel
