/-
VmAssessment/Url/Host.lean

The host of a URL: an IPv6 address in brackets, an IPv4 address in any of
its spellings, or a domain name.  Schemes without rules of their own keep
the host as it is written.
-/
import VmAssessment.Url.Domain
import VmAssessment.Url.Percent

namespace VmAssessment.Url

/-- Why a text is no URL. -/
inductive ParseFault
  | relativeWithoutBase
  | relativeWithOpaqueBase
  | emptyHost
  | badPort
  | badIpv4
  | badIpv6
  | badDomain
  | badHostChar
deriving DecidableEq, Repr

/-- The fault in words. -/
def ParseFault.message : ParseFault → String
  | .relativeWithoutBase => "relative URL without a base"
  | .relativeWithOpaqueBase => "relative URL with a cannot-be-a-base base"
  | .emptyHost => "empty host"
  | .badPort => "invalid port number"
  | .badIpv4 => "invalid IPv4 address"
  | .badIpv6 => "invalid IPv6 address"
  | .badDomain => "invalid international domain name"
  | .badHostChar => "invalid domain character"

/-- The host of a URL. -/
inductive Host
  | empty
  | domain (name : String)
  | ipv4 (address : Nat)
  /-- Eight numbers of sixteen bits. -/
  | ipv6 (pieces : List Nat)
deriving DecidableEq, Repr

/-! ### IPv4 addresses -/

/-- The number that digits of a base denote; nothing if one is no digit. -/
def ofDigits? (base : Nat) (cs : List Char) : Option Nat :=
  cs.foldlM (fun n c => do
    let d ← hexValue? c
    if d < base then return n * base + d else none) 0

/-- A part of an IPv4 address: hexadecimal after `0x`, octal after `0`, else
decimal.  The prefix alone is zero. -/
def ipv4Part? (cs : List Char) : Option Nat :=
  match cs with
  | [] => none
  | '0' :: 'x' :: rest | '0' :: 'X' :: rest => ofDigits? 16 rest
  | ['0'] => some 0
  | '0' :: rest => ofDigits? 8 rest
  | cs => ofDigits? 10 cs

/-- The parts of a name between its dots, without an empty part at the end. -/
def dottedParts (cs : List Char) : List (List Char) :=
  let parts := splitLabels cs
  if 1 < parts.length && parts.getLast? == some [] then parts.dropLast else parts

/-- Whether a name must be an IPv4 address, by its last part. -/
def endsInNumber (cs : List Char) : Bool :=
  match (dottedParts cs).getLast? with
  | some last => (!last.isEmpty && last.all Char.isDigit) || (ipv4Part? last).isSome
  | none => false

/-- The address of a dotted name; its last part fills all bytes left. -/
def ipv4? (cs : List Char) : Option Nat := do
  let parts := dottedParts cs
  if 4 < parts.length then none
  let numbers ← parts.mapM ipv4Part?
  let last ← numbers.getLast?
  let leading := numbers.dropLast
  if leading.all (· ≤ 255) && last < Nat.pow 256 (4 - leading.length) then
    return leading.zipIdx.foldl (fun sum (n, i) => sum + n * Nat.pow 256 (3 - i)) last
  else none

/-- An address in dotted decimal. -/
def ipv4Text (address : Nat) : String :=
  ".".intercalate ([0x1000000, 0x10000, 0x100, 1].map fun w => toString (address / w % 256))

/-! ### IPv6 addresses -/

/-- Up to four leading hexadecimal digits. -/
def takeHex (fuel : Nat) (value : Nat) (cs : List Char) : Nat × Nat × List Char :=
  match fuel, cs with
  | fuel + 1, c :: rest =>
    match hexValue? c with
    | some d =>
      let (v, n, rest) := takeHex fuel (value * 16 + d) rest
      (v, n + 1, rest)
    | none => (value, 0, c :: rest)
  | _, cs => (value, 0, cs)

/-- A decimal part of an embedded IPv4 address: at most 255, without a
leading zero. -/
def embeddedPart? (cs : List Char) : Option (Nat × List Char) :=
  let digits := cs.takeWhile Char.isDigit
  match digits with
  | [] => none
  | '0' :: _ :: _ => none
  | _ =>
    match ofDigits? 10 digits with
    | some n => if n ≤ 255 then some (n, cs.drop digits.length) else none
    | none => none

/-- The four parts of an IPv4 address at the end of an IPv6 address. -/
def embeddedIpv4? (cs : List Char) : Option (List Nat) := do
  let (a, rest) ← embeddedPart? cs
  let '.' :: rest := rest | none
  let (b, rest) ← embeddedPart? rest
  let '.' :: rest := rest | none
  let (c, rest) ← embeddedPart? rest
  let '.' :: rest := rest | none
  let (d, rest) ← embeddedPart? rest
  if rest.isEmpty then return [a * 256 + b, c * 256 + d] else none

/-- The pieces of an address from a piece on; `gap` is where a run of zeros
was left out. -/
def ipv6From? (fuel : Nat) (pieces : List Nat) (gap : Option Nat) (cs : List Char) :
    Option (List Nat × Option Nat) :=
  match fuel, cs with
  | _, [] => some (pieces, gap)
  | 0, _ => none
  | fuel + 1, cs =>
    if pieces.length = 8 then none
    else
      match cs with
      | ':' :: rest =>
        if gap.isSome then none else ipv6From? fuel pieces (some pieces.length) rest
      | cs =>
        let (value, n, rest) := takeHex 4 0 cs
        match rest with
        | '.' :: _ =>
          if n = 0 || 6 < pieces.length then none
          else (embeddedIpv4? cs).map fun last => (pieces ++ last, gap)
        | [] => if n = 0 then none else some (pieces ++ [value], gap)
        | ':' :: rest =>
          if n = 0 || rest.isEmpty then none
          else ipv6From? fuel (pieces ++ [value]) gap rest
        | _ => none

/-- The address between brackets. -/
def ipv6? (cs : List Char) : Option (List Nat) := do
  let (pieces, gap) ← match cs with
    | ':' :: ':' :: rest => ipv6From? (rest.length + 1) [] (some 0) rest
    | ':' :: _ => none
    | [] => none
    | cs => ipv6From? (cs.length + 1) [] none cs
  match gap with
  | some at_ =>
    if pieces.length < 8 then
      return pieces.take at_ ++ List.replicate (8 - pieces.length) 0 ++ pieces.drop at_
    else none
  | none => if pieces.length = 8 then return pieces else none

/-- The length of the run of zeros in front. -/
def zerosAhead (pieces : List Nat) : Nat := (pieces.takeWhile (· == 0)).length

/-- The first longest run of two zeros or more: where it starts and how long
it is. -/
def longestZeros (pieces : List Nat) : Option (Nat × Nat) :=
  let runs := (List.range 8).map fun i => (i, zerosAhead (pieces.drop i))
  runs.foldl (fun best (i, n) =>
    if 2 ≤ n && (best.map (·.2)).getD 1 < n then some (i, n) else best) none

/-- An address in its shortest form, without brackets. -/
def ipv6Text (pieces : List Nat) : String :=
  let hex (l : List Nat) : String :=
    ":".intercalate (l.map fun n => String.ofList (Nat.toDigits 16 n))
  match longestZeros pieces with
  | some (i, n) => hex (pieces.take i) ++ "::" ++ hex (pieces.drop (i + n))
  | none => hex pieces

/-! ### Hosts -/

/-- The host as it stands in a URL. -/
def Host.text : Host → String
  | .empty => ""
  | .domain name => name
  | .ipv4 address => ipv4Text address
  | .ipv6 pieces => "[" ++ ipv6Text pieces ++ "]"

/-- An address in brackets. -/
def bracketed? (cs : List Char) : Except ParseFault Host :=
  if cs.getLast? != some ']' then .error .badIpv6
  else
    match ipv6? cs.dropLast with
    | some pieces => .ok (.ipv6 pieces)
    | none => .error .badIpv6

/-- The host of a URL with a special scheme. -/
def Host.parse : List Char → Except ParseFault Host
  | '[' :: rest => bracketed? rest
  | cs =>
    match (decode? cs).bind domainToAscii? with
    | none => .error .badDomain
    | some [] => .error .emptyHost
    | some name =>
      if endsInNumber name then
        match ipv4? name with
        | some address => .ok (.ipv4 address)
        | none => .error .badIpv4
      else .ok (.domain (String.ofList name))

/-- Characters that no host may hold, whatever the scheme. -/
def isForbiddenHostChar (c : Char) : Bool :=
  c == '\x00' || "\t\n\r #/:<>?@[\\]^|".toList.contains c

/-- The host of a URL with any other scheme. -/
def Host.parseOpaque : List Char → Except ParseFault Host
  | '[' :: rest => bracketed? rest
  | [] => .ok .empty
  | cs =>
    if cs.any isForbiddenHostChar then .error .badHostChar
    else .ok (.domain (String.ofList (encode isControl cs)))

end VmAssessment.Url
