/-
VmAssessment/Json/Printer.lean

The compact text of a JSON value: no blanks, and in strings only what must
be escaped is.
-/
import VmAssessment.Json.Value

namespace VmAssessment

namespace Json

/-- A digit's character. -/
def digitChar (n : Nat) : Char := Char.ofNat (48 + n)

/-- A number as it was written. -/
def Numeral.render (n : Numeral) : List Char :=
  let sign := if n.negative then ['-'] else []
  let fraction := if n.fraction.isEmpty then [] else '.' :: n.fraction.map digitChar
  let exponent := match n.exponent with
    | none => []
    | some e => 'e' :: (toString e).toList
  sign ++ n.whole.map digitChar ++ fraction ++ exponent

/-- The lower-case hexadecimal digit of a number below sixteen. -/
def hexDigit (n : Nat) : Char := if n < 10 then Char.ofNat (48 + n) else Char.ofNat (87 + n)

/-- One character inside a string. -/
def escapeChar (c : Char) : List Char :=
  if c = '"' then ['\\', '"']
  else if c = '\\' then ['\\', '\\']
  else if c = '\n' then ['\\', 'n']
  else if c = '\r' then ['\\', 'r']
  else if c = '\t' then ['\\', 't']
  else if c = '\x08' then ['\\', 'b']
  else if c = '\x0c' then ['\\', 'f']
  else if c.toNat < 0x20 then
    ['\\', 'u', '0', '0', hexDigit (c.toNat / 16), hexDigit (c.toNat % 16)]
  else [c]

/-- A text as a string. -/
def renderText (s : String) : List Char := '"' :: s.toList.flatMap escapeChar ++ ['"']

/-- A string; one that denotes no text is printed empty. -/
def renderString (s : Text?) : List Char := renderText (s.getD "")

mutual

/-- The compact text of a value, put in front of `tail`. -/
def renderOnto : Json → List Char → List Char
  | .null, tail => 'n' :: 'u' :: 'l' :: 'l' :: tail
  | .bool true, tail => 't' :: 'r' :: 'u' :: 'e' :: tail
  | .bool false, tail => 'f' :: 'a' :: 'l' :: 's' :: 'e' :: tail
  | .number n, tail => n.render ++ tail
  | .string s, tail => renderString s ++ tail
  | .array [], tail => '[' :: ']' :: tail
  | .array (v :: rest), tail => '[' :: renderOnto v (renderItems rest (']' :: tail))
  | .object [], tail => '\x7b' :: '\x7d' :: tail
  | .object ((k, v) :: rest), tail =>
    '\x7b' :: (renderString k ++ ':' :: renderOnto v (renderFields rest ('\x7d' :: tail)))

/-- Further items of an array, each after a comma. -/
def renderItems : List Json → List Char → List Char
  | [], tail => tail
  | v :: rest, tail => ',' :: renderOnto v (renderItems rest tail)

/-- Further fields of an object, each after a comma. -/
def renderFields : List (Text? × Json) → List Char → List Char
  | [], tail => tail
  | (k, v) :: rest, tail =>
    ',' :: (renderString k ++ ':' :: renderOnto v (renderFields rest tail))

end

/-- The compact text of a value. -/
def render (v : Json) : String := String.ofList (renderOnto v [])

end Json

end VmAssessment
