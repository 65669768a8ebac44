/-
VmAssessment/Text/Quoted.lean

Texts in double quotes, as diagnostics show them: quotes, backslashes and
what cannot be seen are escaped.
-/
import VmAssessment.Text.Printable

namespace VmAssessment.Text

/-- A code point as an escape. -/
def codeEscape (c : Char) : List Char :=
  ['\\', 'u', '\x7b'] ++ Nat.toDigits 16 c.toNat ++ ['\x7d']

/-- One character inside quotes; `also` lists further characters that take
a backslash. -/
def quoteChar (also : List Char) (c : Char) : List Char :=
  if c = '\x00' then ['\\', '0']
  else if c = '\t' then ['\\', 't']
  else if c = '\r' then ['\\', 'r']
  else if c = '\n' then ['\\', 'n']
  else if c = '\\' || c = '"' || also.contains c then ['\\', c]
  else if isPrintable c then [c]
  else codeEscape c

/-- A text in double quotes. -/
def quote (s : String) : String :=
  String.ofList ('"' :: s.toList.flatMap (quoteChar []) ++ ['"'])

/-- A file path in double quotes, in which single quotes are escaped too. -/
def quotePath (s : String) : String :=
  String.ofList ('"' :: s.toList.flatMap (quoteChar ['\'']) ++ ['"'])

end VmAssessment.Text
