/-
VmAssessment/Wire/Record.lean

How records are read off JSON values.  A record is an object with named
fields, unknown ones skipped and known ones given at most once, or an array
of the fields in order, of which the last may be missing.
-/
import VmAssessment.Json.Amount

namespace VmAssessment.Wire

/-- What a known field of an object holds; the outer layer is empty if the
field is given twice. -/
def fieldIn? (fields : List (Json.Text? × Json)) (names : List String) : Option (Option Json) :=
  match fields.filter fun (k, _) => k.any names.contains with
  | [] => some none
  | [(_, v)] => some (some v)
  | _ => none

/-- The values of the known fields, each under one of its names. -/
def record? (known : List (List String)) : Json → Option (List (Option Json))
  | .object fields =>
    if fields.all (·.1.isSome) then known.mapM (fieldIn? fields) else none
  | .array items =>
    if items.length ≤ known.length then
      some (items.map some ++ List.replicate (known.length - items.length) none)
    else none
  | _ => none

/-- A field that must be there. -/
def required (read : Json → Option α) : Option Json → Option α
  | some v => read v
  | none => none

/-- A field for which null and absence stand for nothing. -/
def optional (read : Json → Option α) : Option Json → Option (Option α)
  | none | some .null => some none
  | some v => (read v).map some

/-- A field with a value to fall back on when it is absent. -/
def defaulted (read : Json → Option α) (fallback : α) : Option Json → Option α
  | some v => read v
  | none => some fallback

/-- A text. -/
def text? : Json → Option String
  | .string s => s
  | _ => none

/-- A truth value. -/
def bool? : Json → Option Bool
  | .bool b => some b
  | _ => none

/-- A size. -/
def size? : Json → Option Number.Binary64
  | .number n => n.toBinary64?
  | _ => none

/-- A count of 32 bits. -/
def count? : Json → Option UInt32
  | .number n => (n.toNat? 0x100000000).map UInt32.ofNat
  | _ => none

/-- A list. -/
def list? (read : Json → Option α) : Json → Option (List α)
  | .array items => items.mapM read
  | _ => none

/-- A name out of a fixed set, written as a string or as an object whose one
field has that name and holds null. -/
def choice? (ofName : String → Option α) : Json → Option α
  | .string s => s.bind ofName
  | .object [(name, .null)] => name.bind ofName
  | _ => none

end VmAssessment.Wire
