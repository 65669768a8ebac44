/-
VmAssessment/Text/Composition.lean

Canonical composition: a decomposed text is put together again from left to
right, each starter taking up the marks after it that nothing blocks.
-/
import VmAssessment.Text.Decomposition

namespace VmAssessment.Text

/-- The character that two Hangul parts make. -/
def composeHangul? (a b : Nat) : Option Nat :=
  if 0x1100 ≤ a && a < 0x1113 && 0x1161 ≤ b && b < 0x1176 then
    some (0xAC00 + ((a - 0x1100) * 21 + (b - 0x1161)) * 28)
  else if 0xAC00 ≤ a && a ≤ 0xD7A3 && (a - 0xAC00) % 28 = 0 && 0x11A7 < b && b < 0x11C3 then
    some (a + (b - 0x11A7))
  else none

/-- The character whose decomposition is that of `a` and `b` together, if
composition may produce it. -/
def composePair? (a b : Char) : Option Char :=
  match composeHangul? a.toNat b.toNat with
  | some n => some (Char.ofNat n)
  | none =>
    let parts := (decomposeChar a ++ decomposeChar b).map Char.toNat
    (decompositions.find? fun (key, whole) =>
      whole == parts && !compositionExclusions.contains key).map fun (key, _) => Char.ofNat key

/-- What composition has done so far: the finished text, last character
first; the starter that may take up more; and what follows it, last first. -/
structure Composing where
  done : List Char := []
  starter : Option Char := none
  marks : List Char := []

namespace Composing

/-- The text so far, last character first. -/
def out (s : Composing) : List Char :=
  s.marks ++ (match s.starter with | some c => [c] | none => []) ++ s.done

/-- Leaves a character uncomposed; a starter begins anew. -/
def keep (s : Composing) (c : Char) : Composing :=
  if combiningClass c = 0 then ⟨s.out, some c, []⟩ else { s with marks := c :: s.marks }

/-- Whether a character can reach the starter over the marks between. -/
def reaches (s : Composing) (c : Char) : Bool :=
  match s.marks with
  | [] => true
  | m :: _ => combiningClass m != 0 && combiningClass m < combiningClass c

/-- Takes in the next character. -/
def push (s : Composing) (c : Char) : Composing :=
  match s.starter with
  | none => s.keep c
  | some a =>
    if s.reaches c then
      match composePair? a c with
      | some whole => { s with starter := some whole }
      | none => s.keep c
    else s.keep c

end Composing

/-- The canonical composition of a text. -/
def compose (cs : List Char) : List Char :=
  if cs.all (·.toNat < 0xC0) then cs
  else ((decompose cs).foldl Composing.push {}).out.reverse

end VmAssessment.Text
