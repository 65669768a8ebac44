/-
VmAssessment/Terminal/Breaking.lean

Breaking a line of text at blanks.  A word that is longer than a whole line
is broken anywhere.  Blanks at a break are dropped; those at the start of a
line are kept unless the text is trimmed.
-/
import VmAssessment.Terminal.Canvas

namespace VmAssessment.Terminal

/-- A line in the course of being broken. -/
structure Breaking where
  /-- The finished lines, the last one first. -/
  done : List (List Glyph) := []
  /-- The line at hand. -/
  line : List Glyph := []
  /-- The blanks after it. -/
  blanks : List Glyph := []
  /-- The word after those. -/
  word : List Glyph := []
  /-- The glyph before was none of the blanks. -/
  inWord : Bool := false

namespace Breaking

/-- Adds the blanks and the word to the line; a trimmed line does not start
with blanks. -/
def join (b : Breaking) (trim : Bool) : Breaking :=
  { b with
    line := b.line ++ (if b.line.isEmpty && trim then [] else b.blanks) ++ b.word
    blanks := []
    word := [] }

/-- The blanks after those that would have fitted on the line before. -/
def dropFitting (room : Nat) : List Glyph → List Glyph
  | [] => []
  | g :: rest => if room < g.width then g :: rest else dropFitting (room - g.width) rest

/-- The segment before a glyph is complete, or has to be broken. -/
def endsSegment (b : Breaking) (limit : Nat) (trim : Bool) (g : Glyph) : Bool :=
  b.inWord && g.isBlank
    || b.line.isEmpty &&
      (if trim then
        limit < columns b.word + g.width || limit < columns b.blanks + g.width
      else limit < columns b.word + columns b.blanks + g.width)

/-- Adds a glyph to the blanks or to the word. -/
def add (b : Breaking) (g : Glyph) : Breaking :=
  if g.isBlank then { b with blanks := b.blanks ++ [g], inWord := false }
  else { b with word := b.word ++ [g], inWord := true }

/-- Takes one glyph. -/
def take (limit : Nat) (trim : Bool) (b : Breaking) (g : Glyph) : Breaking :=
  if limit < g.width then b
  else
    let b := if b.endsSegment limit trim g then b.join trim else b
    let used := columns b.line
    if limit ≤ used || (0 < g.width && limit ≤ used + columns b.blanks + columns b.word) then
      let blanks := dropFitting (limit - used) b.blanks
      let b := { b with done := b.line :: b.done, line := [], blanks }
      if g.isBlank && blanks.isEmpty then b else b.add g
    else b.add g

/-- The broken lines; nothing makes one empty line. -/
def finish (b : Breaking) (trim : Bool) : List (List Glyph) :=
  let onlyBlanks := b.line.isEmpty && b.word.isEmpty && !b.blanks.isEmpty
  let done := if onlyBlanks then [] :: b.done else b.done
  let last := (b.join trim).line
  let done := if last.isEmpty then done else last :: done
  if done.isEmpty then [[]] else done.reverse

end Breaking

/-- Breaks a line so that each piece fits. -/
def broken (limit : Nat) (trim : Bool) (glyphs : List Glyph) : List (List Glyph) :=
  (glyphs.foldl (Breaking.take limit trim) {}).finish trim

/-- A paragraph whose lines are broken. -/
def Canvas.brokenParagraph (c : Canvas) (a : Area) (style : Style) (trim : Bool)
    (lines : List Line) : Canvas :=
  if a.isEmpty then c
  else
    (c.paint a style).writeRows a .left a.y.toNat
      (lines.flatMap fun l => broken a.width.toNat trim l.glyphs)

end VmAssessment.Terminal
