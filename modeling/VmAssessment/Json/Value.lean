/-
VmAssessment/Json/Value.lean

JSON values as they are written: numbers keep their digits, objects keep
their fields in order with repetitions, and a string keeps whether it
denotes a text at all.
-/

namespace VmAssessment

namespace Json

/-- A number as written: `[-]whole[.fraction][e exponent]`, digit by digit. -/
structure Numeral where
  negative : Bool := false
  whole : List Nat
  fraction : List Nat := []
  exponent : Option Int := none
deriving DecidableEq, Repr, Inhabited

/-- A string's text.  There is none if an escape names half a surrogate pair
or the bytes are not UTF-8; such a string can be skipped but not read. -/
abbrev Text? := Option String

end Json

/-- A JSON value. -/
inductive Json
  | null
  | bool (value : Bool)
  | number (numeral : Json.Numeral)
  | string (text : Json.Text?)
  | array (items : List Json)
  | object (fields : List (Json.Text? × Json))
deriving Inhabited

namespace Json

/-- The string with a text. -/
def text (s : String) : Json := .string (some s)

/-- The object with named fields. -/
def fields (l : List (String × Json)) : Json := .object (l.map fun (k, v) => (some k, v))

/-- A natural number. -/
def nat (n : Nat) : Json :=
  .number { whole := (Nat.toDigits 10 n).map fun c => c.toNat - 48 }

/-- The value of a field of an object. -/
def field? (v : Json) (name : String) : Option Json :=
  match v with
  | .object fields => (fields.find? (·.1 == some name)).map (·.2)
  | _ => none

mutual

/-- How many arrays and objects lie inside each other at most. -/
def depth : Json → Nat
  | .array items => depthOfItems items + 1
  | .object fields => depthOfFields fields + 1
  | _ => 0

/-- The greatest depth among the items of an array. -/
def depthOfItems : List Json → Nat
  | [] => 0
  | v :: rest => max (depth v) (depthOfItems rest)

/-- The greatest depth among the values of an object. -/
def depthOfFields : List (Text? × Json) → Nat
  | [] => 0
  | (_, v) :: rest => max (depth v) (depthOfFields rest)

end

end Json

end VmAssessment
