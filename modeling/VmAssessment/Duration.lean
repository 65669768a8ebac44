/-
VmAssessment/Duration.lean

Lengths of time to the nanosecond, and how people write them: amounts with
units, largest first, such as `1h 30m`.  Reading takes the units in any
order, glued or spaced, repeated, and with decimals.
-/
import VmAssessment.Text.Blank

namespace VmAssessment

/-- A length of time; whole seconds fit a machine word. -/
structure Duration where
  secs : Nat
  nanos : Nat
  secs_lt : secs < 0x10000000000000000 := by omega
  nanos_lt : nanos < 1000000000 := by omega
deriving DecidableEq, Repr

namespace Duration

/-- So many seconds. -/
def seconds (n : UInt64) : Duration := ⟨n.toNat, 0, n.toNat_lt, by decide⟩

/-- No time at all. -/
def zero : Duration := seconds 0

instance : Inhabited Duration := ⟨zero⟩

/-- Whether it is no time at all. -/
def isZero (d : Duration) : Bool := d.secs == 0 && d.nanos == 0

/-- So many seconds and nanoseconds, the latter carried over; nothing if
that is too long. -/
def of? (secs nanos : Nat) : Option Duration :=
  if h : secs + nanos / 1000000000 < 0x10000000000000000 then
    some ⟨secs + nanos / 1000000000, nanos % 1000000000, h, Nat.mod_lt _ (by decide)⟩
  else none

/-- Both lengths together; nothing if that is too long. -/
def add? (d : Duration) (secs nanos : Nat) : Option Duration :=
  of? (d.secs + secs) (d.nanos + nanos)

/-- The length in milliseconds, rounded down. -/
def toMillis (d : Duration) : Nat := d.secs * 1000 + d.nanos / 1000000

/-! ### Writing -/

/-- Seconds in a year of 365.25 days. -/
def year : Nat := 31557600

/-- Seconds in a month of 30.44 days. -/
def month : Nat := 2630016

/-- Seconds in a day. -/
def day : Nat := 86400

/-- The amounts of a length by units, largest first.  Years, months and days
take a plural. -/
def amounts (d : Duration) : List (Nat × String × Bool) :=
  [(d.secs / year, "year", true), (d.secs % year / month, "month", true),
    (d.secs % year % month / day, "day", true), (d.secs % year % month % day / 3600, "h", false),
    (d.secs % year % month % day % 3600 / 60, "m", false),
    (d.secs % year % month % day % 60, "s", false), (d.nanos / 1000000, "ms", false),
    (d.nanos / 1000 % 1000, "us", false), (d.nanos % 1000, "ns", false)]

/-- An amount with its unit. -/
def amountText : Nat × String × Bool → String
  | (n, unit, plural) => toString n ++ unit ++ if plural && 1 < n then "s" else ""

/-- The length as people write it. -/
def text (d : Duration) : String :=
  if d.isZero then "0s"
  else " ".intercalate ((d.amounts.filter (·.1 != 0)).map amountText)

/-! ### Reading -/

/-- Units of a second or more, in seconds, and smaller ones in
nanoseconds. -/
inductive TimeUnit
  | seconds (each : Nat)
  | nanoseconds (each : Nat)
deriving DecidableEq, Repr

/-- The unit of a name. -/
def unit? (name : List Char) : Option TimeUnit :=
  let name := String.ofList name
  if ["nanos", "nsec", "ns"].contains name then some (.nanoseconds 1)
  else if ["usec", "us", "µs"].contains name then some (.nanoseconds 1000)
  else if ["millis", "msec", "ms"].contains name then some (.nanoseconds 1000000)
  else if ["seconds", "second", "secs", "sec", "s"].contains name then some (.seconds 1)
  else if ["minutes", "minute", "min", "mins", "m"].contains name then some (.seconds 60)
  else if ["hours", "hour", "hrs", "hr", "h"].contains name then some (.seconds 3600)
  else if ["days", "day", "d"].contains name then some (.seconds day)
  else if ["weeks", "week", "wks", "wk", "w"].contains name then some (.seconds (7 * day))
  else if ["months", "month", "M"].contains name then some (.seconds month)
  else if ["years", "year", "yrs", "yr", "y"].contains name then some (.seconds year)
  else none

/-- A number that still fits a machine word. -/
def word? (n : Nat) : Option Nat := if n < 0x10000000000000000 then some n else none

/-- Adds an amount of a unit. -/
def addAmount? (d : Duration) (unit : TimeUnit) (n : Nat) : Option Duration := do
  match unit with
  | .seconds each => d.add? (← word? (n * each)) 0
  | .nanoseconds each =>
    let _ ← word? (d.nanos + (← word? (n * each)))
    d.add? 0 (n * each)

/-- Adds `n / 10 ^ places` of a unit.  Units up to a minute are divided in
nanoseconds, larger ones in seconds. -/
def addFraction? (d : Duration) (unit : TimeUnit) (n places : Nat) : Option Duration := do
  match unit with
  | .nanoseconds 1 => none
  | .nanoseconds each => d.addAmount? (.nanoseconds 1) ((← word? (n * each)) / Nat.pow 10 places)
  | .seconds each =>
    if each ≤ 60 then
      d.addAmount? (.nanoseconds 1) ((← word? (n * (each * 1000000000))) / Nat.pow 10 places)
    else d.addAmount? (.seconds 1) ((← word? (n * each)) / Nat.pow 10 places)

/-- Letters that units are made of. -/
def isUnitLetter (c : Char) : Bool := c.isAlpha || c == 'µ'

/-- Digits of a number that goes on, blanks between them skipped; what
follows. -/
def readNumber? (n : Nat) : List Char → Option (Nat × List Char)
  | [] => some (n, [])
  | c :: rest =>
    if c.isDigit then do readNumber? (← word? (n * 10 + (c.toNat - 48))) rest
    else if Text.isBlank c then readNumber? n rest
    else some (n, c :: rest)

/-- Digits after a point, blanks between them skipped: their number, how
many there are, and what follows. -/
def readPlaces? (n places : Nat) : List Char → Option (Nat × Nat × List Char)
  | [] => some (n, places, [])
  | c :: rest =>
    if c.isDigit then do
      let n ← word? (n * 10 + (c.toNat - 48))
      let _ ← word? (Nat.pow 10 (places + 1))
      readPlaces? n (places + 1) rest
    else if Text.isBlank c then readPlaces? n places rest
    else some (n, places, c :: rest)

/-- The decimals of a number, if it has any. -/
def readDecimals? : List Char → Option (Option (Nat × Nat) × List Char)
  | '.' :: rest => do
    let (n, places, rest) ← readPlaces? 0 0 rest
    if places = 0 then none else return (some (n, places), rest)
  | rest => some (none, rest)

/-- Adds amounts until nothing is left.  Each starts with a digit; its unit
ends at a digit, a blank or the end. -/
def readAmounts? (fuel : Nat) (d : Duration) (cs : List Char) : Option Duration :=
  match fuel, cs with
  | 0, _ => none
  | fuel + 1, c :: rest =>
    if c.isDigit then do
      let (n, rest) ← readNumber? (c.toNat - 48) rest
      let (decimals, rest) ← readDecimals? rest
      let name := rest.takeWhile isUnitLetter
      let unit ← unit? name
      let d ← d.addAmount? unit n
      let d ← match decimals with
        | some (n, places) => d.addFraction? unit n places
        | none => some d
      let rest := rest.drop name.length
      match rest with
      | [] => return d
      | c :: _ =>
        if c.isDigit || Text.isBlank c then
          match rest.dropWhile Text.isBlank with
          | [] => return d
          | rest => readAmounts? fuel d rest
        else none
    else none
  | _, [] => none

/-- The length that a text denotes; a zero may stand alone. -/
def parse? (s : String) : Option Duration :=
  if s == "0" then some zero
  else readAmounts? (s.length + 1) zero (s.toList.dropWhile Text.isBlank)

end Duration

end VmAssessment
