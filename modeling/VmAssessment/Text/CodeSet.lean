/-
VmAssessment/Text/CodeSet.lean

Sets of code points as ascending boundaries: membership flips at each
boundary.  `rank` finds by halving how many boundaries lie at or below a
code point, so a code point is in the set iff its rank is odd.
-/

namespace VmAssessment.Text

/-- Halves the range `lo ≤ · < hi` until it is empty; the result is the
first index whose entry exceeds `x`. -/
def rankIn (a : Array Nat) (x : Nat) : Nat → Nat → Nat → Nat
  | 0, lo, _ => lo
  | fuel + 1, lo, hi =>
    if lo < hi then
      let mid := (lo + hi) / 2
      if a.getD mid 0 ≤ x then rankIn a x fuel (mid + 1) hi else rankIn a x fuel lo mid
    else lo

/-- How many entries of the ascending array lie at or below `x`. -/
def rank (a : Array Nat) (x : Nat) : Nat := rankIn a x (a.size.log2 + 1) 0 a.size

/-- A set of code points, by the boundaries at which membership flips. -/
structure CodeSet where
  bounds : Array Nat

/-- Whether the code point of the character is in the set. -/
def CodeSet.contains (s : CodeSet) (c : Char) : Bool := rank s.bounds c.toNat % 2 == 1

end VmAssessment.Text
