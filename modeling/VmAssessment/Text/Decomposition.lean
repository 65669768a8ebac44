/-
VmAssessment/Text/Decomposition.lean

Canonical decomposition: every character is replaced by its parts, then
each run of marks is put in the order of their combining classes.  Hangul
syllables decompose by arithmetic.
-/
import VmAssessment.Text.CombiningClass
import VmAssessment.Text.DecompositionTable

namespace VmAssessment.Text

/-- The parts of a character, before reordering. -/
def decomposeChar (c : Char) : List Char :=
  let n := c.toNat
  if n < 0xC0 then [c]
  else if 0xAC00 ≤ n && n ≤ 0xD7A3 then
    let s := n - 0xAC00
    let lead := Char.ofNat (0x1100 + s / 588)
    let vowel := Char.ofNat (0x1161 + s % 588 / 28)
    if s % 28 = 0 then [lead, vowel] else [lead, vowel, Char.ofNat (0x11A7 + s % 28)]
  else
    match decompositions[rank decompositionKeys n - 1]? with
    | some (key, parts) => if key = n then parts.map Char.ofNat else [c]
    | none => [c]

/-- Moves a mark in front of the marks of higher class that end the
reversed text. -/
def insertMark (m : Char) : List Char → List Char
  | [] => [m]
  | c :: rest =>
    if combiningClass m < combiningClass c then c :: insertMark m rest else m :: c :: rest

/-- Puts every run of marks in class order; marks of one class keep theirs. -/
def reorderMarks (cs : List Char) : List Char :=
  let add (done : List Char) (c : Char) :=
    if combiningClass c = 0 then c :: done else insertMark c done
  (cs.foldl add []).reverse

/-- The canonical decomposition of a text. -/
def decompose (cs : List Char) : List Char :=
  if cs.all (·.toNat < 0xC0) then cs else reorderMarks (cs.flatMap decomposeChar)

end VmAssessment.Text
