/-
VmAssessment/Number/Word.lean

How far a machine word reaches.
-/

namespace VmAssessment.Number

/-- The first number beyond a 64-bit word. -/
def wordLimit : Nat := 0x10000000000000000

end VmAssessment.Number
