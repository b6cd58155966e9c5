
-- Sets of characters given by their boundaries.
-- The boundaries ascend: the set begins at the first, ends before the second, begins again at the third,
-- and so on. A character is in the set when an odd number of boundaries is at or below it.
namespace Entitlement.Text

structure CharSet where
  boundaries : List Nat

-- Whether `n` lies in the set whose remaining boundaries are given; `inside` tells which side of
-- them the count has reached.
def CharSet.sideOf (n : Nat) : Bool → List Nat → Bool
  | inside, [] => inside
  | inside, b :: rest => if n < b then inside else sideOf n (!inside) rest

def CharSet.contains (set : CharSet) (c : Char) : Bool := sideOf c.toNat false set.boundaries

end Entitlement.Text
