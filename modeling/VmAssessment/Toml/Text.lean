/-
VmAssessment/Toml/Text.lean

Strings in TOML: four ways to quote, written in the plainest that fits and
read in any.
-/

namespace VmAssessment.Toml

/-- The longest run of a character. -/
def longestRun (c : Char) (run best : Nat) : List Char → Nat
  | [] => best
  | d :: rest =>
    if d = c then longestRun c (run + 1) (max best (run + 1)) rest else longestRun c 0 best rest

/-- Control characters that can only be written as escapes. -/
def needsEscape (c : Char) : Bool :=
  (c.toNat < 0x20 && c != '\t' && c != '\n') || c.toNat == 0x7F

/-- The four ways to quote. -/
inductive Quoting
  | basic | literal | longBasic | longLiteral
deriving DecidableEq, Repr

namespace Quoting

/-- The quotes at each end. -/
def delimiter : Quoting → List Char
  | .basic => ['"']
  | .literal => ['\'']
  | .longBasic => ['"', '"', '"']
  | .longLiteral => ['\'', '\'', '\'']

/-- Whether line breaks may stand inside. -/
def isLong : Quoting → Bool
  | .longBasic | .longLiteral => true
  | _ => false

/-- Whether a backslash starts an escape. -/
def hasEscapes : Quoting → Bool
  | .basic | .longBasic => true
  | _ => false

/-- The plainest way that needs no escape, or else one with escapes. -/
def choose (cs : List Char) : Quoting :=
  let escapes := cs.any needsEscape
  let backslash := cs.contains '\\'
  let lines := cs.contains '\n'
  let doubles := longestRun '"' 0 0 cs
  let singles := longestRun '\'' 0 0 cs
  if !escapes && !backslash && doubles = 0 && !lines then .basic
  else if !escapes && singles = 0 && !lines then .literal
  else if !escapes && !backslash && doubles ≤ 2 then .longBasic
  else if !escapes && singles ≤ 2 then .longLiteral
  else if lines then .longBasic
  else .basic

end Quoting

/-- An upper-case hexadecimal digit. -/
def hexDigit (n : Nat) : Char := Char.ofNat (if n < 10 then 48 + n else 55 + n)

/-- A character other than a double quote, inside a string with escapes. -/
def escapeChar (long : Bool) (c : Char) : List Char :=
  if c = '\\' then ['\\', '\\']
  else if c = '\x08' then ['\\', 'b']
  else if c = '\t' then ['\\', 't']
  else if c = '\x0c' then ['\\', 'f']
  else if c = '\r' then ['\\', 'r']
  else if c = '\n' then (if long then ['\n'] else ['\\', 'n'])
  else if c.toNat < 0x20 || c.toNat = 0x7F then
    ['\\', 'u', '0', '0', hexDigit (c.toNat / 16), hexDigit (c.toNat % 16)]
  else [c]

/-- The inside of a string with escapes; `quotes` counts the double quotes
just written, of which two may stand in a row in a long string, and none in a
short one. -/
def writeEscaped (long : Bool) (quotes : Nat) : List Char → List Char
  | [] => []
  | c :: rest =>
    if c = '"' then
      if quotes < (if long then 2 else 0) then '"' :: writeEscaped long (quotes + 1) rest
      else '\\' :: '"' :: writeEscaped long 0 rest
    else escapeChar long c ++ writeEscaped long 0 rest

/-- A text as a string. -/
def writeText (s : String) : List Char :=
  let cs := s.toList
  let q := Quoting.choose cs
  q.delimiter ++ (if q.isLong && cs.contains '\n' then ['\n'] else [])
    ++ (if q.hasEscapes then writeEscaped q.isLong 0 cs else cs) ++ q.delimiter

/-! ### Reading -/

/-- Characters that may stand in a string as they are. -/
def isPlain (c : Char) : Bool := (0x20 ≤ c.toNat && c.toNat != 0x7F) || c == '\t'

/-- A hexadecimal digit's value. -/
def hexValue? (c : Char) : Option Nat :=
  if '0' ≤ c && c ≤ '9' then some (c.toNat - 48)
  else if 'a' ≤ c && c ≤ 'f' then some (c.toNat - 87)
  else if 'A' ≤ c && c ≤ 'F' then some (c.toNat - 55)
  else none

/-- The character that so many hexadecimal digits name. -/
def readCode? (digits : Nat) (cs : List Char) : Option (Char × List Char) := do
  let written := cs.take digits
  if written.length < digits then none
  let n ← written.foldlM (fun n c => do return n * 16 + (← hexValue? c)) 0
  if n.isValidChar then return (Char.ofNat n, cs.drop digits) else none

/-- The character of an escape after its backslash. -/
def readEscape? : List Char → Option (Char × List Char)
  | 'b' :: rest => some ('\x08', rest)
  | 't' :: rest => some ('\t', rest)
  | 'n' :: rest => some ('\n', rest)
  | 'f' :: rest => some ('\x0c', rest)
  | 'r' :: rest => some ('\r', rest)
  | 'e' :: rest => some ('\x1b', rest)
  | '"' :: rest => some ('"', rest)
  | '\\' :: rest => some ('\\', rest)
  | 'x' :: rest => readCode? 2 rest
  | 'u' :: rest => readCode? 4 rest
  | 'U' :: rest => readCode? 8 rest
  | _ => none

/-- The rest of a basic string after its opening quote. -/
def readBasic? (fuel : Nat) (out : List Char) (cs : List Char) : Option (String × List Char) :=
  match fuel, cs with
  | 0, _ | _, [] => none
  | fuel + 1, c :: rest =>
    if c = '"' then some (String.ofList out.reverse, rest)
    else if c = '\\' then do
      let (e, rest) ← readEscape? rest
      readBasic? fuel (e :: out) rest
    else if isPlain c then readBasic? fuel (c :: out) rest
    else none

/-- The rest of a literal string after its opening quote. -/
def readLiteral? (out : List Char) : List Char → Option (String × List Char)
  | [] => none
  | c :: rest =>
    if c = '\'' then some (String.ofList out.reverse, rest)
    else if isPlain c then readLiteral? (c :: out) rest
    else none

/-- Drops one line break in front. -/
def dropNewline : List Char → List Char
  | '\n' :: rest => rest
  | '\r' :: '\n' :: rest => rest
  | cs => cs

/-- Drops blanks and line breaks in front. -/
def skipBlankLines : List Char → List Char
  | '\r' :: '\n' :: rest => skipBlankLines rest
  | c :: rest => if c == ' ' || c == '\t' || c == '\n' then skipBlankLines rest else c :: rest
  | [] => []

/-- What follows a backslash that ends its line: blanks to the end of the
line, then all blanks and line breaks. -/
def skipLineEnd? (cs : List Char) : Option (List Char) :=
  match cs.dropWhile fun c => c == ' ' || c == '\t' with
  | '\n' :: rest | '\r' :: '\n' :: rest => some (skipBlankLines rest)
  | _ => none

/-- Closing quotes of a long string: three, with up to two more that belong
to the string. -/
def closing? (quote : Char) (cs : List Char) : Option (Nat × List Char) :=
  let run := (cs.takeWhile (· == quote)).length
  if run < 3 then none
  else if run ≤ 5 then some (run - 3, cs.drop run)
  else some (2, cs.drop 5)

/-- The rest of a long string after its opening quotes. -/
def readLong? (quote : Char) (escapes : Bool) (fuel : Nat) (out : List Char) (cs : List Char) :
    Option (String × List Char) :=
  match fuel, cs with
  | 0, _ | _, [] => none
  | fuel + 1, c :: rest =>
    if c = quote then
      match closing? quote cs with
      | some (extra, rest) =>
        some (String.ofList (List.replicate extra quote ++ out).reverse, rest)
      | none => readLong? quote escapes fuel (c :: out) rest
    else if c = '\\' && escapes then
      match readEscape? rest with
      | some (e, rest) => readLong? quote escapes fuel (e :: out) rest
      | none => do readLong? quote escapes fuel out (← skipLineEnd? rest)
    else if c = '\r' then
      match rest with
      | '\n' :: rest => readLong? quote escapes fuel ('\n' :: c :: out) rest
      | _ => none
    else if isPlain c || c = '\n' then readLong? quote escapes fuel (c :: out) rest
    else none

/-- A string in any quoting. -/
def readText? (cs : List Char) : Option (String × List Char) :=
  match cs with
  | '"' :: '"' :: '"' :: rest => readLong? '"' true (rest.length + 1) [] (dropNewline rest)
  | '\'' :: '\'' :: '\'' :: rest => readLong? '\'' false (rest.length + 1) [] (dropNewline rest)
  | '"' :: rest => readBasic? (rest.length + 1) [] rest
  | '\'' :: rest => readLiteral? [] rest
  | _ => none

/-- A string in a quoting that stays on one line. -/
def readShortText? (cs : List Char) : Option (String × List Char) :=
  match cs with
  | '"' :: rest => readBasic? (rest.length + 1) [] rest
  | '\'' :: rest => readLiteral? [] rest
  | _ => none

end VmAssessment.Toml
