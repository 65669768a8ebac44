/-
VmAssessment/Capacity.lean

Capacities as people read them: given in GB, shown in GB, TB or PB.  The
unit is chosen on the exact value and the number is rounded afterwards, to
one decimal with a half going to the even neighbour.  A whole number is
shown without decimals.
-/
import VmAssessment.Number.Binary64

namespace VmAssessment.Capacity

open Number (Binary64)

/-- The units a capacity is shown in. -/
inductive StorageUnit
  | gb | tb | pb
deriving DecidableEq, Repr

/-- The unit as printed. -/
def StorageUnit.label : StorageUnit → String
  | .gb => "GB"
  | .tb => "TB"
  | .pb => "PB"

/-- A capacity ready to print. -/
structure Shown where
  unit : StorageUnit
  /-- The number in tenths of the unit, rounded. -/
  tenths : Nat
  /-- Whether the exact number is whole. -/
  whole : Bool
deriving DecidableEq, Repr

/-- The largest unit of which there is at least one, PB at most, and the
quotient that counts it. -/
def promote (num den : Nat) : StorageUnit × Nat :=
  if num < 1024 * den then (.gb, den)
  else if num < 1024 * (1024 * den) then (.tb, 1024 * den)
  else (.pb, 1024 * (1024 * den))

/-- A positive quotient of GB, ready to print. -/
def shown (num den : Nat) : Shown :=
  let (unit, den) := promote num den
  ⟨unit, Binary64.roundRatio (10 * num) den, num % den = 0⟩

/-- The printed number and unit. -/
def Shown.text (s : Shown) : String :=
  let number :=
    if s.whole then toString (s.tenths / 10)
    else toString (s.tenths / 10) ++ "." ++ toString (s.tenths % 10)
  number ++ " " ++ s.unit.label

/-- A size in GB as people read it; anything that is no positive number is
shown as nothing at all. -/
def text (size : Binary64) : String :=
  if !size.isFinite || size.sign || size.magnitude = 0 then "0 GB"
  else (shown size.ratio.1 size.ratio.2).text

end VmAssessment.Capacity
