/-
VmAssessment/Url/Punycode.lean

Punycode: labels of any characters written with letters, digits and hyphens.
The characters beyond ASCII are written in ascending order as distances from
one to the next, in digits of a base whose thresholds adapt.
-/

namespace VmAssessment.Url.Punycode

/-- The character of a digit: letters, then decimal digits. -/
def digitChar (d : Nat) : Char := Char.ofNat (if d < 26 then 97 + d else 22 + d)

/-- The digit of a character. -/
def digitValue? (c : Char) : Option Nat :=
  if 'a' ≤ c && c ≤ 'z' then some (c.toNat - 97)
  else if 'A' ≤ c && c ≤ 'Z' then some (c.toNat - 65)
  else if '0' ≤ c && c ≤ '9' then some (c.toNat - 22)
  else none

/-- The threshold at the digit position `k`. -/
def threshold (k bias : Nat) : Nat := min (max (k - bias) 1) 26

/-- Scales a distance down, counting the steps. -/
def settle (delta k : Nat) : Nat × Nat :=
  if 455 < delta then settle (delta / 35) (k + 36) else (delta, k)
termination_by delta
decreasing_by omega

/-- The bias after a distance, of which `points` were written so far. -/
def adapt (delta points : Nat) (first : Bool) : Nat :=
  let delta := if first then delta / 700 else delta / 2
  let (delta, k) := settle (delta + delta / points) 0
  k + 36 * delta / (delta + 38)

/-- The digits of a distance. -/
def writeDistance (bias k q : Nat) : List Char :=
  let t := threshold k bias
  if q < t then [digitChar q]
  else digitChar (t + (q - t) % (36 - t)) :: writeDistance bias (k + 36) ((q - t) / (36 - t))
termination_by q
decreasing_by
  have h1 : 1 ≤ threshold k bias := by unfold threshold; omega
  calc (q - threshold k bias) / (36 - threshold k bias)
      ≤ q - threshold k bias := Nat.div_le_self _ _
    _ < q := by omega

/-- A label being written. -/
structure Writing where
  /-- The digits so far, last first. -/
  out : List Char := []
  delta : Nat := 0
  bias : Nat := 72
  /-- How many characters are written. -/
  count : Nat

/-- Goes past one character while those equal to `n` are written. -/
def Writing.pass (basic n : Nat) (w : Writing) (c : Char) : Writing :=
  if c.toNat < n then { w with delta := w.delta + 1 }
  else if c.toNat = n then
    ⟨(writeDistance w.bias 36 w.delta).reverse ++ w.out, 0,
      adapt w.delta (w.count + 1) (w.count == basic), w.count + 1⟩
  else w

/-- Writes the characters beyond ASCII, whose code points are listed in
ascending order. -/
def writeRest (label : List Char) (basic : Nat) : Nat → List Nat → Writing → Writing
  | _, [], w => w
  | from_, n :: rest, w =>
    let w := { w with delta := w.delta + (n - from_) * (w.count + 1) }
    let w := label.foldl (Writing.pass basic n) w
    writeRest label basic (n + 1) rest { w with delta := w.delta + 1 }

/-- The written form of a label, without the mark in front. -/
def encode (label : List Char) : List Char :=
  let basic := label.filter (·.toNat < 0x80)
  let codes := ((label.map Char.toNat).filter (0x80 ≤ ·)).mergeSort.eraseDups
  let w := writeRest label basic.length 0x80 codes { count := basic.length }
  (if basic.isEmpty then [] else basic ++ ['-']) ++ w.out.reverse

/-- Reads a distance; what is left. -/
def readDistance? (bias : Nat) : Nat → Nat → Nat → List Char → Option (Nat × List Char)
  | _, _, _, [] => none
  | i, weight, k, c :: rest => do
    let digit ← digitValue? c
    let i := i + digit * weight
    if 0x100000000 ≤ i then none
    let t := threshold k bias
    if digit < t then return (i, rest)
    readDistance? bias i (weight * (36 - t)) (k + 36) rest

/-- Reads distances until none is left, inserting a character for each. -/
def readRest? : Nat → Nat → Nat → Nat → List Char → List Char → Option (List Char)
  | 0, _, _, _, _, _ => none
  | _, _, _, _, out, [] => some out
  | fuel + 1, n, i, bias, out, cs => do
    let (j, rest) ← readDistance? bias i 1 36 cs
    let points := out.length + 1
    let bias := adapt (j - i) points (i == 0)
    let n := n + j / points
    let at_ := j % points
    if 0x10FFFF < n || (0xD800 ≤ n && n ≤ 0xDFFF) then none
    readRest? fuel n (at_ + 1) bias (out.take at_ ++ Char.ofNat n :: out.drop at_) rest

/-- The characters up to the last hyphen, and those after it. -/
def splitAtLastHyphen (cs : List Char) : List Char × List Char :=
  let tail := cs.reverse.takeWhile (· != '-')
  if tail.length = cs.length then ([], cs)
  else (cs.take (cs.length - tail.length - 1), tail.reverse)

/-- The label that a written form denotes. -/
def decode? (cs : List Char) : Option (List Char) :=
  let (basic, rest) := splitAtLastHyphen cs
  if basic.all (·.toNat < 0x80) then readRest? (rest.length + 1) 0x80 0 72 basic rest else none

end VmAssessment.Url.Punycode
