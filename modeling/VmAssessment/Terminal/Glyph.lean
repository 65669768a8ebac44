/-
VmAssessment/Terminal/Glyph.lean

Text as a terminal shows it: a glyph is a character with what combines with
it, and takes a number of columns.  Spans of text in one style make a line.
-/
import VmAssessment.Terminal.Style
import VmAssessment.Terminal.Width
import VmAssessment.Text.Blank
import VmAssessment.Text.Mark

namespace VmAssessment.Terminal

/-- What is shown in one place. -/
structure Glyph where
  symbol : String
  /-- How many columns it takes. -/
  width : Nat
  style : Style
deriving DecidableEq, Repr, Inhabited

/-- Joins the pictures on both sides of it. -/
def joiner : Char := '\u200d'

/-- The letters of which two make a flag. -/
def isFlagLetter (c : Char) : Bool := 0x1F1E6 ≤ c.toNat && c.toNat ≤ 0x1F1FF

/-- Pictures that a joiner can join. -/
def isPicture (c : Char) : Bool :=
  0x203C ≤ c.toNat && wide.contains c || 0x2600 ≤ c.toNat && c.toNat < 0x27C0

/-- Changes the skin of the picture before it. -/
def isSkin (c : Char) : Bool := 0x1F3FB ≤ c.toNat && c.toNat ≤ 0x1F3FF

/-- Characters that never combine with others. -/
def isControl (c : Char) : Bool :=
  c.toNat < 0x20 || 0x7F ≤ c.toNat && c.toNat < 0xA0 || c.toNat = 0x200B || c.toNat = 0x2028
    || c.toNat = 0x2029

/-- Whether a character belongs to the glyph whose characters so far are
given, the last one first. -/
def combines (before : List Char) (c : Char) : Bool :=
  match before with
  | [] => false
  | last :: earlier =>
    if isControl last || isControl c then last == '\r' && c == '\n'
    else if Text.marks.contains c || invisible.contains c || isSkin c then true
    else if last == joiner then isPicture c && earlier.any isPicture
    else isFlagLetter last && isFlagLetter c && earlier.isEmpty

/-- The characters of a text by glyphs; those of the glyph at hand come
first, the last one in front. -/
def clusters (before : List Char) : List Char → List (List Char)
  | [] => if before.isEmpty then [] else [before.reverse]
  | c :: rest =>
    if before.isEmpty || combines before c then clusters (c :: before) rest
    else before.reverse :: clusters [c] rest

/-- The columns of a glyph with these characters: control characters are
shown in one column, pictures joined to one in two. -/
def clusterWidth (cs : List Char) : Nat :=
  if cs == ['\r', '\n'] then 1 else min 2 (cs.foldl (fun n c => n + charWidth c) 0)

/-- The glyphs of a text in one style; line feeds are not shown. -/
def glyphsOf (style : Style) (text : String) : List Glyph :=
  (clusters [] text.toList).filterMap fun cs =>
    if cs == ['\n'] then none else some ⟨String.ofList cs, clusterWidth cs, style⟩

/-- The columns of a list of glyphs. -/
def columns (glyphs : List Glyph) : Nat := glyphs.foldl (fun n g => n + g.width) 0

/-- A glyph at which lines may be broken. -/
def Glyph.isBlank (g : Glyph) : Bool :=
  g.symbol == "\u200b" || g.symbol.toList.all Text.isBlank && g.symbol != "\u00a0"

/-- A piece of text in one style. -/
structure Span where
  text : String
  style : Style := {}
deriving DecidableEq, Repr, Inhabited

/-- A line of text; its own style lies below those of its spans. -/
structure Line where
  spans : List Span
  style : Style := {}
deriving DecidableEq, Repr, Inhabited

namespace Line

/-- A line of one piece. -/
def of (text : String) (style : Style := {}) : Line := { spans := [{ text, style }] }

/-- The glyphs of a line. -/
def glyphs (l : Line) : List Glyph :=
  l.spans.flatMap fun s => glyphsOf (l.style.under s.style) s.text

/-- The columns of a line. -/
def width (l : Line) : Nat := columns l.glyphs

end Line

/-- The texts between line feeds; carriage returns before line feeds are
dropped.  The characters of the line at hand come first, the last one in
front. -/
def splitLines (before : List Char) : List Char → List String
  | [] => [String.ofList before.reverse]
  | '\r' :: '\n' :: rest => String.ofList before.reverse :: splitLines [] rest
  | '\n' :: rest => String.ofList before.reverse :: splitLines [] rest
  | c :: rest => splitLines (c :: before) rest

/-- The lines of a text; a line feed at its end starts no further line. -/
def linesOf (text : String) : List String :=
  let parts := splitLines [] text.toList
  if parts.getLast? == some "" then parts.dropLast else parts

end VmAssessment.Terminal
