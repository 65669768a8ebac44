/-
VmAssessment/Screen/Palette.lean

The colours and styles of the screen.
-/
import VmAssessment.Display
import VmAssessment.Session.Basic
import VmAssessment.Terminal.Style
import VmAssessment.Vm

namespace VmAssessment

open Terminal (Colour Style)

namespace Palette

/-! ### Colours -/

def background : Colour := ⟨30, 30, 46⟩
def raised : Colour := ⟨69, 71, 90⟩
def foreground : Colour := ⟨205, 214, 244⟩
def gray : Colour := ⟨127, 132, 156⟩
def cyan : Colour := ⟨137, 220, 235⟩
def green : Colour := ⟨166, 227, 161⟩
def orange : Colour := ⟨250, 179, 135⟩
def purple : Colour := ⟨203, 166, 247⟩
def red : Colour := ⟨243, 139, 168⟩
def yellow : Colour := ⟨249, 226, 175⟩

end Palette

open Palette

/-- The colour of a status. -/
def VmStatus.colour : VmStatus → Colour
  | .migratable => green
  | .migratableWithWarnings => yellow
  | .notMigratable => red

/-- The colour of a phase. -/
def Phase.colour : Phase → Colour
  | .ready => gray
  | .connecting | .connected => cyan
  | .collecting => orange
  | .collected => green
  | .error => red

/-- The colour of a notification. -/
def Level.colour : Level → Colour
  | .info => cyan
  | .success => green
  | .warning => yellow
  | .error => red

namespace Palette

/-! ### Styles -/

/-- Text in a colour. -/
def ink (c : Colour) : Style := { ink := some c }

/-- Bold text in a colour. -/
def boldInk (c : Colour) : Style := { ink := some c, emphasis.bold := true }

def panel : Style := { ink := some foreground, ground := some background }
def border : Style := ink gray
def focusedBorder : Style := ink purple
def title : Style := boldInk purple
def heading : Style := boldInk yellow
def highlight : Style := { ground := some raised, emphasis.bold := true }
def hint : Style := { ink := some gray, emphasis.italic := true }
def disabled : Style := { ink := some gray, emphasis.dim := true }

/-- A filter chip in a colour. -/
def chip (c : Colour) : Style := { ink := some c, ground := some raised }

end Palette

end VmAssessment
