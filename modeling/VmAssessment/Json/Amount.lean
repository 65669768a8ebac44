/-
VmAssessment/Json/Amount.lean

What a written number is worth.  As an integer it must be written as one.
As a double-precision number it is worked out with machine words: digits
are gathered while they fit 64 bits, and the power of ten that is left is
applied by one rounded multiplication or division (or several divisions,
below the least power there is).  The last bit can therefore differ from
that of the nearest number.
-/
import VmAssessment.Json.Value
import VmAssessment.Number.Binary64
import VmAssessment.Number.Word

namespace VmAssessment

open Number (Binary64)

namespace Json.Numeral

/-- Written without point and exponent. -/
def isInteger (n : Numeral) : Bool := n.fraction.isEmpty && n.exponent.isNone

/-- Gathers digits while they fit 64 bits; the number of digits left over. -/
def gather (n : Nat) : List Nat → Nat × Nat
  | [] => (n, 0)
  | d :: ds => if n * 10 + d < Number.wordLimit then gather (n * 10 + d) ds else (n, ds.length + 1)

/-- The natural number below `bound` that an integer denotes. -/
def toNat? (n : Numeral) (bound : Nat) : Option Nat :=
  let value := n.whole.foldl (fun n d => n * 10 + d) 0
  if n.isInteger && !n.negative && value < bound then some value else none

/-- The nearest number to a power of ten. -/
def powerOfTen (k : Nat) : Binary64 := .ofNat (Nat.pow 10 k)

/-- A number times a power of ten; nothing if it is too large. -/
def scale (x : Binary64) (e : Int) : Option Binary64 :=
  if e.natAbs ≤ 308 then
    if 0 ≤ e then
      let y := x.mul (powerOfTen e.natAbs)
      if y.isFinite then some y else none
    else some (x.div (powerOfTen e.natAbs))
  else if x.magnitude = 0 then some x
  else if 0 ≤ e then none
  else scale (x.div (powerOfTen 308)) (e + 308)
termination_by e.natAbs
decreasing_by omega

/-- The double-precision number that a numeral is worth; nothing if it is
too large. -/
def toBinary64? (n : Numeral) : Option Binary64 :=
  let (whole, wholeLeft) := gather 0 n.whole
  let (digits, fractionLeft) := gather whole n.fraction
  let shift : Int := wholeLeft - ((n.fraction.length - fractionLeft : Nat) : Int)
  let magnitude :=
    if n.isInteger && wholeLeft = 0 then some (Binary64.ofNat whole)
    else scale (.ofNat digits) (shift + n.exponent.getD 0)
  magnitude.map fun x => if n.negative then x.neg else x

end Json.Numeral

end VmAssessment
