/-
VmAssessment/Json/Reader.lean

Reading JSON.  The reader takes symbols rather than characters, so that a
string with bytes that are no UTF-8 is read as a string without a text,
while such bytes anywhere else are refused.  Every function returns what
follows the part it read.
-/
import VmAssessment.Json.Value
import VmAssessment.Text.Utf8

namespace VmAssessment

open Text (Symbol)

namespace Json

/-- The symbols after leading blanks. -/
def skipBlanks : List Symbol → List Symbol
  | some c :: rest =>
    if c = ' ' || c = '\n' || c = '\t' || c = '\r' then skipBlanks rest else some c :: rest
  | cs => cs

/-- A hexadecimal digit's value. -/
def hexValue? (c : Char) : Option Nat :=
  if '0' ≤ c && c ≤ '9' then some (c.toNat - 48)
  else if 'a' ≤ c && c ≤ 'f' then some (c.toNat - 87)
  else if 'A' ≤ c && c ≤ 'F' then some (c.toNat - 55)
  else none

/-- Four hexadecimal digits. -/
def readUnit? : List Symbol → Option (Nat × List Symbol)
  | some a :: some b :: some c :: some d :: rest => do
    let a ← hexValue? a
    let b ← hexValue? b
    let c ← hexValue? c
    let d ← hexValue? d
    return (((a * 16 + b) * 16 + c) * 16 + d, rest)
  | _ => none

/-- The character of a one-letter escape. -/
def escaped? (c : Char) : Option Char :=
  match c with
  | '"' => some '"'
  | '\\' => some '\\'
  | '/' => some '/'
  | 'b' => some '\x08'
  | 'f' => some '\x0c'
  | 'n' => some '\n'
  | 'r' => some '\r'
  | 't' => some '\t'
  | _ => none

/-- The second half of a surrogate pair, written as an escape. -/
def readLowHalf? : List Symbol → Option (Nat × List Symbol)
  | some '\\' :: some 'u' :: rest => do
    let (unit, rest) ← readUnit? rest
    if 0xDC00 ≤ unit && unit ≤ 0xDFFF then return (unit, rest) else none
  | _ => none

/-- The character of an escape that starts with the unit just read: the unit
alone, a surrogate pair, or no character at all. -/
def pairUp (unit : Nat) (rest : List Symbol) : Symbol × List Symbol :=
  if 0xD800 ≤ unit && unit ≤ 0xDBFF then
    match readLowHalf? rest with
    | some (low, rest) =>
      (some (Char.ofNat (0x10000 + (unit - 0xD800) * 1024 + (low - 0xDC00))), rest)
    | none => (none, rest)
  else if 0xDC00 ≤ unit && unit ≤ 0xDFFF then (none, rest)
  else (some (Char.ofNat unit), rest)

/-- The rest of a string after its opening quote.  `text` holds the
characters so far, last first, until a part shows that denotes none. -/
def readString? (fuel : Nat) (text : Option (List Char)) (cs : List Symbol) :
    Option (Text? × List Symbol) :=
  match fuel, cs with
  | 0, _ | _, [] => none
  | fuel + 1, none :: rest => readString? fuel none rest
  | fuel + 1, some c :: rest =>
    if c = '"' then some (text.map fun t => String.ofList t.reverse, rest)
    else if c = '\\' then
      match rest with
      | some 'u' :: rest =>
        match readUnit? rest with
        | none => none
        | some (unit, rest) =>
          let (symbol, rest) := pairUp unit rest
          readString? fuel (do return (← symbol) :: (← text)) rest
      | some e :: rest =>
        match escaped? e with
        | none => none
        | some c => readString? fuel (text.map (c :: ·)) rest
      | _ => none
    else if c.toNat < 0x20 then none
    else readString? fuel (text.map (c :: ·)) rest

/-- Leading decimal digits, by value. -/
def readDigits : List Symbol → List Nat × List Symbol
  | some c :: rest =>
    if '0' ≤ c && c ≤ '9' then
      let (digits, rest) := readDigits rest
      ((c.toNat - 48) :: digits, rest)
    else ([], some c :: rest)
  | cs => ([], cs)

/-- The number with some decimal digits. -/
def ofDigits (digits : List Nat) : Nat := digits.foldl (fun n d => n * 10 + d) 0

/-- The part of a number after its point, if there is one. -/
def readFraction? : List Symbol → Option (List Nat × List Symbol)
  | some '.' :: rest =>
    match readDigits rest with
    | ([], _) => none
    | (digits, rest) => some (digits, rest)
  | cs => some ([], cs)

/-- The digits of an exponent after its sign. -/
def readExponentDigits? (negative : Bool) (cs : List Symbol) : Option (Option Int × List Symbol) :=
  match readDigits cs with
  | ([], _) => none
  | (digits, rest) =>
    let n : Int := ofDigits digits
    some (some (if negative then -n else n), rest)

/-- The exponent of a number, if there is one. -/
def readExponent? : List Symbol → Option (Option Int × List Symbol)
  | some c :: rest =>
    if c = 'e' || c = 'E' then
      match rest with
      | some '+' :: rest => readExponentDigits? false rest
      | some '-' :: rest => readExponentDigits? true rest
      | cs => readExponentDigits? false cs
    else some (none, some c :: rest)
  | cs => some (none, cs)

/-- A number after its sign.  The whole part has no leading zero. -/
def readNumeral? (negative : Bool) (cs : List Symbol) : Option (Numeral × List Symbol) := do
  let (whole, rest) := readDigits cs
  match whole with
  | [] => none
  | 0 :: _ :: _ => none
  | _ =>
    let (fraction, rest) ← readFraction? rest
    let (exponent, rest) ← readExponent? rest
    return (⟨negative, whole, fraction, exponent⟩, rest)

/-- Whether the symbols start with a word; what follows it. -/
def readWord? : List Char → List Symbol → Option (List Symbol)
  | [], cs => some cs
  | w :: ws, some c :: cs => if w = c then readWord? ws cs else none
  | _ :: _, _ => none

mutual

/-- A value after leading blanks. -/
def readValue? (fuel : Nat) (cs : List Symbol) : Option (Json × List Symbol) :=
  match fuel with
  | 0 => none
  | fuel + 1 =>
    match skipBlanks cs with
    | some c :: rest =>
      if c = '"' then do
        let (s, rest) ← readString? fuel (some []) rest
        return (.string s, rest)
      else if c = '[' then
        match skipBlanks rest with
        | some ']' :: rest => some (.array [], rest)
        | rest => do
          let (items, rest) ← readItems? fuel rest
          return (.array items, rest)
      else if c = '\x7b' then
        match skipBlanks rest with
        | some '\x7d' :: rest => some (.object [], rest)
        | rest => do
          let (fields, rest) ← readFields? fuel rest
          return (.object fields, rest)
      else if c = '-' then do
        let (n, rest) ← readNumeral? true rest
        return (.number n, rest)
      else if '0' ≤ c && c ≤ '9' then do
        let (n, rest) ← readNumeral? false (some c :: rest)
        return (.number n, rest)
      else if c = 'n' then do return (.null, ← readWord? ['u', 'l', 'l'] rest)
      else if c = 't' then do return (.bool true, ← readWord? ['r', 'u', 'e'] rest)
      else if c = 'f' then do return (.bool false, ← readWord? ['a', 'l', 's', 'e'] rest)
      else none
    | _ => none

/-- The items of an array up to its closing bracket. -/
def readItems? (fuel : Nat) (cs : List Symbol) : Option (List Json × List Symbol) :=
  match fuel with
  | 0 => none
  | fuel + 1 => do
    let (v, rest) ← readValue? fuel cs
    match skipBlanks rest with
    | some ',' :: rest =>
      let (vs, rest) ← readItems? fuel rest
      return (v :: vs, rest)
    | some ']' :: rest => return ([v], rest)
    | _ => none

/-- The fields of an object up to its closing brace. -/
def readFields? (fuel : Nat) (cs : List Symbol) : Option (List (Text? × Json) × List Symbol) :=
  match fuel with
  | 0 => none
  | fuel + 1 =>
    match skipBlanks cs with
    | some '"' :: rest => do
      let (k, rest) ← readString? fuel (some []) rest
      match skipBlanks rest with
      | some ':' :: rest =>
        let (v, rest) ← readValue? fuel rest
        match skipBlanks rest with
        | some ',' :: rest =>
          let (fields, rest) ← readFields? fuel rest
          return ((k, v) :: fields, rest)
        | some '\x7d' :: rest => return ([(k, v)], rest)
        | _ => none
      | _ => none
    | _ => none

end

/-- The value that makes up the symbols, blanks apart. -/
def read? (cs : List Symbol) : Option Json :=
  match readValue? (2 * cs.length + 2) cs with
  | some (v, rest) => if (skipBlanks rest).isEmpty then some v else none
  | none => none

/-- The value a text denotes. -/
def ofString? (s : String) : Option Json := read? (Text.symbolsOf s)

/-- The value some bytes denote. -/
def ofBytes? (bytes : List UInt8) : Option Json := read? (Text.readUtf8 bytes)

end Json

end VmAssessment
