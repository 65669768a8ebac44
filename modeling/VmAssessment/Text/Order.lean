/-
VmAssessment/Text/Order.lean

The order of text columns.  Texts are compared first by their folded form,
in which accents are dropped and letters lowered; then by case, position by
position, lower before upper; then by code points.
-/
import VmAssessment.Text.Decomposition
import VmAssessment.Text.Lowercase
import VmAssessment.Text.Mark

namespace VmAssessment.Text

/-- What the order looks at, computed once for a text. -/
structure SortKey where
  /-- Base letters only, lowered. -/
  folded : List Char
  /-- Which characters of the decomposed text are upper case. -/
  uppers : List Bool
  /-- The text itself. -/
  text : List Char
deriving DecidableEq, Repr

/-- The accent-stripped, lower-cased form of a decomposed text. -/
def fold (decomposed : List Char) : List Char :=
  (decomposed.filter fun c => !isMark c).flatMap lowerChar

/-- The key of a text. -/
def SortKey.of (s : String) : SortKey :=
  let parts := decompose s.toList
  ⟨fold parts, parts.map isUpper, s.toList⟩

/-- Lexicographic order by code point, a shorter text first. -/
def compareChars : List Char → List Char → Ordering
  | [], [] => .eq
  | [], _ :: _ => .lt
  | _ :: _, [] => .gt
  | a :: as, b :: bs => (compare a.toNat b.toNat).then (compareChars as bs)

/-- The first position that is upper case in one text only decides, as far
as both texts reach. -/
def compareCase : List Bool → List Bool → Ordering
  | a :: as, b :: bs =>
    match a, b with
    | false, true => .lt
    | true, false => .gt
    | _, _ => compareCase as bs
  | _, _ => .eq

/-- Folded forms first, then case, then the texts themselves. -/
def SortKey.compare (a b : SortKey) : Ordering :=
  (compareChars a.folded b.folded).then <|
    (compareCase a.uppers b.uppers).then (compareChars a.text b.text)

/-- The order of two texts. -/
def compareText (a b : String) : Ordering := (SortKey.of a).compare (SortKey.of b)

end VmAssessment.Text
