/-
VmAssessment/Number/Binary64.lean

Double-precision numbers as bit patterns.  Sizes of machines are kept this
way, so that what is printed, compared and stored depends on integers only:

* `isFinite`, `isBelowZero`: what a size check asks;
* `orderIndex`: a total order on all patterns, signed zeros and NaNs included;
* `significand`, `exponent`: the exact value `significand * 2 ^ exponent`;
* `ofRatio`: the pattern nearest to a quotient, ties to even.
-/

namespace VmAssessment.Number

/-- A double-precision number, by its bits. -/
structure Binary64 where
  bits : UInt64
deriving DecidableEq, Repr, Inhabited

namespace Binary64

/-- The least significand with all its bits, which is two to the power of
52. -/
def fullSignificand : Nat := 0x10000000000000

/-- The pattern of the sign bit alone. -/
def signBit : Nat := 0x8000000000000000

/-- The pattern of positive infinity; finite magnitudes lie below it. -/
def infinityMagnitude : Nat := 0x7FF * fullSignificand

/-- The sign bit. -/
def sign (x : Binary64) : Bool := signBit ≤ x.bits.toNat

/-- All bits but the sign. -/
def magnitude (x : Binary64) : Nat := x.bits.toNat % signBit

/-- Neither infinite nor a NaN. -/
def isFinite (x : Binary64) : Bool := x.magnitude < infinityMagnitude

/-- Below zero as a number; negative zero is not, nor is a NaN. -/
def isBelowZero (x : Binary64) : Bool :=
  x.sign && x.magnitude != 0 && x.magnitude ≤ infinityMagnitude

/-- The position in the total order of patterns: negative patterns before
positive ones, and among those of one sign by magnitude. -/
def orderIndex (x : Binary64) : Int :=
  if x.sign then -1 - (x.magnitude : Int) else x.magnitude

/-- The integer significand of a finite number. -/
def significand (x : Binary64) : Nat :=
  if x.magnitude < fullSignificand then x.magnitude
  else fullSignificand + x.magnitude % fullSignificand

/-- The exponent of two that goes with `significand`. -/
def exponent (x : Binary64) : Int := max ((x.magnitude / fullSignificand : Nat) : Int) 1 - 1075

/-- The exact magnitude of a finite number, as a quotient. -/
def ratio (x : Binary64) : Nat × Nat :=
  (x.significand * Nat.pow 2 x.exponent.toNat, Nat.pow 2 (-x.exponent).toNat)

/-- Rounds a quotient to the nearest integer, a half to the even neighbour. -/
def roundRatio (num den : Nat) : Nat :=
  let q := num / den
  let r := num % den
  if den < 2 * r || (den == 2 * r && q % 2 == 1) then q + 1 else q

/-- The quotient divided by `2 ^ k`. -/
def scaleDown (num den : Nat) (k : Int) : Nat × Nat :=
  (num * Nat.pow 2 (-k).toNat, den * Nat.pow 2 k.toNat)

/-- The exponent at which a positive quotient has a 53-bit integer part, or
the least exponent there is. -/
def scaleOf (num den : Nat) : Int :=
  let guess : Int := (num.log2 : Int) - den.log2 - 52
  let (n, d) := scaleDown num den guess
  let exact := if n / d < fullSignificand then guess - 1 else guess
  max exact (-1074)

/-- The bits, without the sign, of the number nearest to a quotient. -/
def magnitudeOfRatio (num den : Nat) : Nat :=
  if num = 0 then 0
  else
    let k := scaleOf num den
    let (n, d) := scaleDown num den k
    min ((k + 1074).toNat * fullSignificand + roundRatio n d) infinityMagnitude

/-- A pattern from its sign and its other bits. -/
def ofParts (negative : Bool) (magnitude : Nat) : Binary64 :=
  ⟨UInt64.ofNat (if negative then signBit + magnitude else magnitude)⟩

/-- The number nearest to `± num / den`, infinite if that is too large. -/
def ofRatio (negative : Bool) (num den : Nat) : Binary64 :=
  ofParts negative (magnitudeOfRatio num den)

/-- The number nearest to a natural number. -/
def ofNat (n : Nat) : Binary64 := ofRatio false n 1

/-- The product of two finite magnitudes, rounded. -/
def mul (x y : Binary64) : Binary64 :=
  ofRatio (x.sign != y.sign) (x.ratio.1 * y.ratio.1) (x.ratio.2 * y.ratio.2)

/-- The quotient of two finite magnitudes, rounded; `y` is not zero. -/
def div (x y : Binary64) : Binary64 :=
  ofRatio (x.sign != y.sign) (x.ratio.1 * y.ratio.2) (x.ratio.2 * y.ratio.1)

/-- The same magnitude with the other sign. -/
def neg (x : Binary64) : Binary64 := ofParts (!x.sign) x.magnitude

/-- Zero. -/
def zero : Binary64 := ⟨0⟩

/-- Negative zero. -/
def negZero : Binary64 := ⟨0x8000000000000000⟩

/-- Compares in the total order of patterns. -/
def compareTotal (x y : Binary64) : Ordering := compare x.orderIndex y.orderIndex

/-- The sixteen hexadecimal digits of the pattern. -/
def toHex (x : Binary64) : String :=
  let digits := Nat.toDigits 16 x.bits.toNat
  String.ofList (List.replicate (16 - digits.length) '0' ++ digits)

end Binary64

end VmAssessment.Number
