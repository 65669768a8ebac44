/-
VmAssessment/Terminal/Canvas.lean

The cells of a screen, and what is put on them: styles and symbols, lines,
framed boxes and paragraphs.  What would lie outside is not drawn.
-/
import VmAssessment.Terminal.Area
import VmAssessment.Terminal.Glyph

namespace VmAssessment.Terminal

/-- One place on the screen. -/
structure Cell where
  symbol : String := " "
  style : Style := {}
deriving DecidableEq, Repr, Inhabited

/-- The cells of a screen, row by row. -/
structure Canvas where
  rows : Array (Array Cell)
deriving DecidableEq, Repr, Inhabited

namespace Canvas

/-- A screen with nothing on it. -/
def blank (width height : UInt16) : Canvas :=
  ⟨Array.replicate height.toNat (Array.replicate width.toNat {})⟩

/-- The whole of a screen of this size. -/
def whole (width height : UInt16) : Area := ⟨0, 0, width, height⟩

/-! ### Cells -/

/-- Changes one cell. -/
def modify (c : Canvas) (x y : Nat) (f : Cell → Cell) : Canvas :=
  ⟨c.rows.modify y fun row => row.modify x f⟩

/-- Changes so many cells of a row. -/
def modifyRun (f : Cell → Cell) (start : Nat) : Nat → Array Cell → Array Cell
  | 0, row => row
  | n + 1, row => modifyRun f (start + 1) n (row.modify start f)

/-- Changes so many rows. -/
def modifyRows (f : Array Cell → Array Cell) (start : Nat) :
    Nat → Array (Array Cell) → Array (Array Cell)
  | 0, rows => rows
  | n + 1, rows => modifyRows f (start + 1) n (rows.modify start f)

/-- Changes the cells of an area. -/
def modifyArea (c : Canvas) (a : Area) (f : Cell → Cell) : Canvas :=
  ⟨modifyRows (modifyRun f a.x.toNat a.width.toNat) a.y.toNat a.height.toNat c.rows⟩

/-- Lays a style over an area. -/
def paint (c : Canvas) (a : Area) (style : Style) : Canvas :=
  c.modifyArea a fun cell => { cell with style := cell.style.under style }

/-- Takes everything off an area. -/
def wipe (c : Canvas) (a : Area) : Canvas := c.modifyArea a fun _ => {}

/-- Puts a symbol on a cell. -/
def put (c : Canvas) (x y : Nat) (symbol : String) (style : Style) : Canvas :=
  c.modify x y fun cell => ⟨symbol, cell.style.under style⟩

/-- Takes everything off so many cells. -/
def hide (c : Canvas) (x y : Nat) : Nat → Canvas
  | 0 => c
  | n + 1 => (c.modify x y fun _ => {}).hide (x + 1) y n

/-- Adds a symbol to what a cell shows. -/
def attach (c : Canvas) (x y : Nat) (symbol : String) (style : Style) : Canvas :=
  c.modify x y fun cell => ⟨cell.symbol ++ symbol, cell.style.under style⟩

/-! ### Lines -/

/-- Puts glyphs on a row from a column on, as far as they fit before the
limit.  A glyph without columns goes with the one before. -/
def write (c : Canvas) (start x y limit : Nat) : List Glyph → Canvas
  | [] => c
  | g :: rest =>
    if limit < x + g.width then c
    else if g.width = 0 then
      (if x = start then c else c.attach (x - 1) y g.symbol g.style).write start x y limit rest
    else
      ((c.put x y g.symbol g.style).hide (x + 1) y (g.width - 1)).write start (x + g.width) y limit
        rest

/-- Puts a line at the left of an area's first row. -/
def writeLine (c : Canvas) (a : Area) (l : Line) : Canvas :=
  if a.isEmpty then c
  else (c.paint (a.row 0) l.style).write a.x.toNat a.x.toNat a.y.toNat a.right l.glyphs

/-! ### Boxes -/

/-- A frame with titles on its edges. -/
structure Box where
  title : String := ""
  /-- The title stands in the middle. -/
  centered : Bool := false
  /-- The title on the lower edge. -/
  foot : Line := Line.of ""
  titleStyle : Style := {}
  borderStyle : Style := {}
  style : Style := {}

/-- Puts a symbol on so many cells side by side. -/
def putRow (c : Canvas) (symbol : String) (style : Style) (x y : Nat) : Nat → Canvas
  | 0 => c
  | n + 1 => (c.put x y symbol style).putRow symbol style (x + 1) y n

/-- Puts a symbol on so many cells one below the other. -/
def putColumn (c : Canvas) (symbol : String) (style : Style) (x y : Nat) : Nat → Canvas
  | 0 => c
  | n + 1 => (c.put x y symbol style).putColumn symbol style x (y + 1) n

/-- Draws the lines around an area. -/
def frame (c : Canvas) (a : Area) (style : Style) : Canvas :=
  let (left, top, right, bottom) := (a.x.toNat, a.y.toNat, a.right - 1, a.bottom - 1)
  let c := c.putColumn "│" style left top a.height.toNat
  let c := c.putRow "─" style left top a.width.toNat
  let c := c.putColumn "│" style right top a.height.toNat
  let c := c.putRow "─" style left bottom a.width.toNat
  let c := c.put right bottom "┘" style
  let c := c.put right top "┐" style
  let c := c.put left bottom "└" style
  c.put left top "┌" style

/-- Puts a title on an edge, at the left or in the middle. -/
def writeTitle (c : Canvas) (edge : Area) (centered : Bool) (style : Style) (title : Line) :
    Canvas :=
  let width := title.width
  let indent := if centered then (edge.width.toNat - width) / 2 else 0
  let place : Area :=
    ⟨edge.x + UInt16.ofNat indent, edge.y, UInt16.ofNat (min width (edge.width.toNat - indent)), 1⟩
  (c.paint place style).writeLine place title

/-- Draws a box. -/
def box (c : Canvas) (a : Area) (b : Box) : Canvas :=
  if a.isEmpty then c
  else
    let c := (c.paint a b.style).frame a b.borderStyle
    let top : Area := ⟨a.x + 1, a.y, Area.lessen a.width 2, 1⟩
    let c := c.writeTitle top b.centered b.titleStyle (Line.of b.title)
    c.writeTitle { top with y := a.y + (a.height - 1) } false b.titleStyle b.foot

/-! ### Paragraphs -/

/-- Where the lines of a paragraph stand. -/
inductive Alignment
  | left | center | right
deriving DecidableEq, Repr

/-- How far a line is moved to the right. -/
def Alignment.offset (available width : Nat) : Alignment → Nat
  | .left => 0
  | .center => available / 2 - width / 2
  | .right => available - width

/-- The glyphs of a line before one that would go beyond the limit; those
wider than the limit itself are passed over. -/
def fitting (limit used : Nat) : List Glyph → List Glyph
  | [] => []
  | g :: rest =>
    if limit < g.width then fitting limit used rest
    else if limit < used + g.width then []
    else g :: fitting limit (used + g.width) rest

/-- The broken lines of a paragraph on rows one below the other. -/
def writeRows (c : Canvas) (a : Area) (alignment : Alignment) (y : Nat) : List (List Glyph) → Canvas
  | [] => c
  | glyphs :: rest =>
    if y < a.bottom then
      let x := a.x.toNat + alignment.offset a.width.toNat (columns glyphs)
      (c.write x x y a.right (glyphs.filter (·.width ≠ 0))).writeRows a alignment (y + 1) rest
    else c

/-- A paragraph without line breaking: each line is cut at the edge. -/
def paragraph (c : Canvas) (a : Area) (style : Style) (alignment : Alignment) (lines : List Line) :
    Canvas :=
  if a.isEmpty then c
  else
    (c.paint a style).writeRows a alignment a.y.toNat
      (lines.map fun l => fitting a.width.toNat 0 l.glyphs)

end Canvas

end VmAssessment.Terminal
