/-
VmAssessment/Toml/Scalar.lean

Unquoted values in TOML: truth values, integers in four bases, floats and
times.  A value is the longest run of the characters that such values are
made of, and must be one of them as a whole.
-/
import VmAssessment.Number.Binary64
import VmAssessment.Toml.Text
import VmAssessment.Toml.Value

namespace VmAssessment.Toml

/-- The digits of a base with single underscores between them. -/
def digits? (base : Nat) (cs : List Char) : Option (List Nat) :=
  match cs with
  | [] => none
  | [c] => do
    let d ← hexValue? c
    if d < base then return [d] else none
  | c :: '_' :: rest => do
    let d ← hexValue? c
    if d < base then return d :: (← digits? base rest) else none
  | c :: rest => do
    let d ← hexValue? c
    if d < base then return d :: (← digits? base rest) else none

/-- The number with some digits. -/
def ofDigits (base : Nat) (digits : List Nat) : Nat := digits.foldl (fun n d => n * base + d) 0

/-- A sign and what follows it. -/
def splitSign : List Char → Bool × List Char
  | '-' :: rest => (true, rest)
  | '+' :: rest => (false, rest)
  | cs => (false, cs)

/-- Decimal digits without a leading zero. -/
def wholeDigits? (cs : List Char) : Option (List Nat) := do
  match ← digits? 10 cs with
  | 0 :: _ :: _ => none
  | digits => return digits

/-- An integer.  Other bases than ten take no sign. -/
def integer? (cs : List Char) : Option Int :=
  match cs with
  | '0' :: 'x' :: rest => (digits? 16 rest).map fun d => (ofDigits 16 d : Int)
  | '0' :: 'o' :: rest => (digits? 8 rest).map fun d => (ofDigits 8 d : Int)
  | '0' :: 'b' :: rest => (digits? 2 rest).map fun d => (ofDigits 2 d : Int)
  | cs =>
    let (negative, rest) := splitSign cs
    (wholeDigits? rest).map fun d =>
      let n : Int := ofDigits 10 d
      if negative then -n else n

/-- Integers that can be kept at all. -/
def isKept (n : Int) : Bool :=
  -0x80000000000000000000000000000000 ≤ n && n < 0x100000000000000000000000000000000

/-- Whether a decimal is too large for a double-precision number. -/
def isHuge (digits : List Nat) (exponent : Int) : Bool :=
  let n := ofDigits 10 digits
  n != 0 &&
    (if 400 < exponent + digits.length then true
    else if exponent < 0 then false
    else Number.Binary64.infinityMagnitude
      ≤ Number.Binary64.magnitudeOfRatio (n * Nat.pow 10 exponent.toNat) 1)

/-- Digits and underscores in front, and what follows them. -/
def splitDigits (cs : List Char) : List Char × List Char :=
  let run := cs.takeWhile fun (c : Char) => c.isDigit || c == '_'
  (run, cs.drop run.length)

/-- The digits after a point, if there is one. -/
def readFraction? : List Char → Option (List Nat × List Char)
  | '.' :: rest =>
    let (run, rest) := splitDigits rest
    (digits? 10 run).map fun d => (d, rest)
  | rest => some ([], rest)

/-- An exponent that makes up the rest, if there is one. -/
def readExponent? : List Char → Option (Option Int)
  | [] => some none
  | e :: rest =>
    if e == 'e' || e == 'E' then
      let (negative, rest) := splitSign rest
      (digits? 10 rest).map fun d =>
        let n : Int := ofDigits 10 d
        some (if negative then -n else n)
    else none

/-- Whether the characters are a decimal with a fraction or an exponent. -/
def isDecimal (cs : List Char) : Bool :=
  let (run, rest) := splitDigits cs
  match wholeDigits? run, readFraction? rest with
  | some whole, some (places, rest) =>
    match readExponent? rest with
    | some exponent =>
      (!places.isEmpty || exponent.isSome)
        && !isHuge (whole ++ places) (exponent.getD 0 - places.length)
    | none => false
  | _, _ => false

/-- Whether the characters are a float. -/
def isFloat (cs : List Char) : Bool :=
  let (_, rest) := splitSign cs
  rest == "inf".toList || rest == "nan".toList || isDecimal rest

/-! ### Times -/

/-- A number of so many digits, at most `most`. -/
def field? (width : Nat) (cs : List Char) : Option (Nat × List Char) :=
  let digits := cs.take width
  if digits.length = width && digits.all Char.isDigit then
    some (ofDigits 10 (digits.map fun c => c.toNat - 48), cs.drop width)
  else none

/-- The days of a month. -/
def daysIn (year month : Nat) : Nat :=
  if month = 2 then
    if year % 4 = 0 && (year % 100 != 0 || year % 400 = 0) then 29 else 28
  else if [4, 6, 9, 11].contains month then 30
  else 31

/-- A date and what follows it. -/
def date? (cs : List Char) : Option (List Char) := do
  let (year, rest) ← field? 4 cs
  let '-' :: rest := rest | none
  let (month, rest) ← field? 2 rest
  let '-' :: rest := rest | none
  let (day, rest) ← field? 2 rest
  if 1 ≤ month && month ≤ 12 && 1 ≤ day && day ≤ daysIn year month then return rest else none

/-- A time of day and what follows it; seconds and their decimals may be
missing. -/
def clock? (cs : List Char) : Option (List Char) := do
  let (hour, rest) ← field? 2 cs
  let ':' :: rest := rest | none
  let (minute, rest) ← field? 2 rest
  if 23 < hour || 59 < minute then none
  match rest with
  | ':' :: rest =>
    let (second, rest) ← field? 2 rest
    if 60 < second then none
    match rest with
    | '.' :: rest =>
      let decimals := rest.takeWhile Char.isDigit
      if decimals.isEmpty then none else return rest.drop decimals.length
    | rest => return rest
  | rest => return rest

/-- The distance to universal time, if any. -/
def isOffset (cs : List Char) : Bool :=
  match cs with
  | [] | ['Z'] | ['z'] => true
  | sign :: rest =>
    (sign == '+' || sign == '-') &&
      match field? 2 rest with
      | some (hour, ':' :: rest) =>
        match field? 2 rest with
        | some (minute, []) => hour ≤ 23 && minute ≤ 59
        | _ => false
      | _ => false

/-- Whether the characters are a date, a time of day or both. -/
def isTime (cs : List Char) : Bool :=
  match date? cs with
  | some [] => true
  | some (sep :: rest) =>
    (sep == 'T' || sep == 't' || sep == ' ') &&
      match clock? rest with
      | some rest => isOffset rest
      | none => false
  | none => clock? cs == some []

/-- The value of the characters. -/
def scalar? (cs : List Char) : Option Toml :=
  if cs == "true".toList then some (.boolean true)
  else if cs == "false".toList then some (.boolean false)
  else
    match integer? cs with
    | some n => if isKept n then some (.integer n) else none
    | none => if isFloat cs then some .float else if isTime cs then some .time else none

/-- Characters that unquoted values are made of. -/
def isScalarChar (c : Char) : Bool :=
  c.isAlphanum || c == '_' || c == '-' || c == '+' || c == '.' || c == ':'

/-- The unquoted value in front.  A blank between a date and a time of day
belongs to the value. -/
def readScalar? (cs : List Char) : Option (Toml × List Char) :=
  let word := cs.takeWhile isScalarChar
  let rest := cs.drop word.length
  match date? word, rest with
  | some [], ' ' :: d :: more =>
    if d.isDigit then
      let clock := (d :: more).takeWhile isScalarChar
      (scalar? (word ++ ' ' :: clock)).map fun v => (v, (d :: more).drop clock.length)
    else (scalar? word).map fun v => (v, rest)
  | _, _ => (scalar? word).map fun v => (v, rest)

end VmAssessment.Toml
