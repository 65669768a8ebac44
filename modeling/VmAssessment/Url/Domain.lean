/-
VmAssessment/Url/Domain.lean

Domain names in their ASCII form.  A name is mapped character by character,
composed and split into labels; labels beyond ASCII are checked and written
in Punycode, and labels already so written are read back and checked alike.
-/
import VmAssessment.Text.Composition
import VmAssessment.Text.Mark
import VmAssessment.Url.BidiTable
import VmAssessment.Url.DomainTable
import VmAssessment.Url.JoiningTable
import VmAssessment.Url.Punycode

namespace VmAssessment.Url

open Text (CaseRun)

/-- ASCII characters that no domain name may hold. -/
def isForbidden (c : Char) : Bool :=
  c.toNat ≤ 0x20 || c.toNat == 0x7F || "%#/:<>?@[\\]^|".toList.contains c

/-- The several characters that a character maps to. -/
def mappedText? (n : Nat) : Option (List Nat) :=
  match mappedTexts[Text.rank mappedTextKeys n - 1]? with
  | some (key, whole) => if key = n then some whole else none
  | none => none

/-- What a character maps to; nothing if a domain name may not hold it. -/
def mapChar? (c : Char) : Option (List Char) :=
  if c.toNat < 0x80 then some [c.toLower]
  else if disallowed.contains c then none
  else if ignored.contains c then some []
  else
    match mappedText? c.toNat, CaseRun.find? mappedRuns mappedRunStarts c.toNat with
    | some whole, _ => some (whole.map Char.ofNat)
    | none, some n => some [Char.ofNat n]
    | none, none => some ((Text.decomposeChar c).flatMap Text.lowerChar)

/-- A name mapped and composed. -/
def mapName? (cs : List Char) : Option (List Char) := do
  return Text.compose (← cs.mapM mapChar?).flatten

/-- The labels of a name. -/
def splitLabels (cs : List Char) : List (List Char) := cs.splitOn '.'

/-- Marks that link two consonants. -/
def isVirama (c : Char) : Bool := Text.combiningClass c == 9

/-- Whether a joiner or non-joiner may stand between the reversed text
before it and the text after it. -/
def mayJoin (before : List Char) (joiner : Char) (after : List Char) : Bool :=
  before.head?.any isVirama
    || (joiner == '\u200c'
      && (before.dropWhile joinsThrough.contains).head?.any joinsForward.contains
      && (after.dropWhile joinsThrough.contains).head?.any joinsBackward.contains)

/-- Whether every joiner of a label may stand where it is. -/
def joinersFit (before : List Char) : List Char → Bool
  | [] => true
  | c :: rest =>
    (!(c == '\u200c' || c == '\u200d') || mayJoin before c rest) && joinersFit (c :: before) rest

/-- Whether a label's characters fit together. -/
def isLabel (label : List Char) : Bool :=
  !label.head?.any Text.isMark && joinersFit [] label

/-- Classes that make a name one of both directions. -/
def isBidiClass : BidiClass → Bool
  | .rightToLeft | .arabicLetter | .arabicNumber => true
  | _ => false

/-- The classes of a label without the marks at its end. -/
def trimNonspacing (classes : List BidiClass) : List BidiClass :=
  (classes.reverse.dropWhile (· == .nonspacingMark)).reverse

/-- The direction rule for a label in a name of both directions. -/
def fitsDirection (label : List Char) : Bool :=
  let classes := label.map bidiClass
  let neutral : List BidiClass :=
    [.europeanNumber, .europeanSeparator, .commonSeparator, .europeanTerminator, .otherNeutral,
      .boundaryNeutral, .nonspacingMark]
  match classes.head?, (trimNonspacing classes).getLast? with
  | none, _ => true
  | some .leftToRight, last =>
    classes.all (fun k => k == .leftToRight || neutral.contains k)
      && last.any fun k => k == .leftToRight || k == .europeanNumber
  | some first, last =>
    (first == .rightToLeft || first == .arabicLetter)
      && classes.all (fun k => isBidiClass k || neutral.contains k)
      && last.any (fun k => isBidiClass k || k == .europeanNumber)
      && !(classes.contains .europeanNumber && classes.contains .arabicNumber)

/-- A label as characters; one written in Punycode is read back, and must be
what the reading would be mapped to. -/
def readLabel? (label : List Char) : Option (List Char) :=
  match label with
  | 'x' :: 'n' :: '-' :: '-' :: written => do
    let label ← Punycode.decode? written
    if label.all (·.toNat < 0x80) then none
    if (mapName? label) == some label && !label.contains '.' && isLabel label then return label
    else none
  | label => if label.all (·.toNat < 0x80) || isLabel label then some label else none

/-- The ASCII form of a label. -/
def writeLabel (label : List Char) : List Char :=
  if label.all (·.toNat < 0x80) then label else "xn--".toList ++ Punycode.encode label

/-- The ASCII form of a domain name. -/
def domainToAscii? (cs : List Char) : Option (List Char) := do
  let name ← mapName? cs
  if name.any isForbidden then none
  let labels ← (splitLabels name).mapM readLabel?
  if labels.any (·.any fun c => isBidiClass (bidiClass c)) && !labels.all fitsDirection then none
  return ['.'].intercalate (labels.map writeLabel)

end VmAssessment.Url
