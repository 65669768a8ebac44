/-
VmAssessment/Toml/Value.lean

The values of a TOML document.  Floats and times of day are told apart from
the rest but not worked out: no setting has such a value.
-/

namespace VmAssessment

/-- A TOML value. -/
inductive Toml
  | string (text : String)
  | integer (value : Int)
  | float
  | boolean (value : Bool)
  | time
  | array (items : List Toml)
  | table (entries : List (String × Toml))
deriving Inhabited, Repr

namespace Toml

/-- The value of a key of a table. -/
def entry? (entries : List (String × Toml)) (key : String) : Option Toml :=
  (entries.find? (·.1 == key)).map (·.2)

end Toml

end VmAssessment
