/-
VmAssessment/Text/Utf8.lean

Reading bytes as UTF-8.  Every byte sequence reads as symbols: characters,
and gaps where a maximal run of bytes is the start of no character.
-/

namespace VmAssessment.Text

/-- A character, or a gap left by bytes that encode none. -/
abbrev Symbol := Option Char

/-- The symbols of a text: its characters. -/
def symbolsOf (s : String) : List Symbol := s.toList.map some

/-- Whether a byte may follow within a character. -/
def isTrail (b : UInt8) : Bool := 0x80 ≤ b && b ≤ 0xBF

/-- The bits a following byte adds. -/
def trailBits (b : UInt8) : Nat := b.toNat % 64

/-- What bytes may follow the first byte of a character of two, three or
four bytes at once. -/
def isSecond (first second : UInt8) : Bool :=
  isTrail second
    && !(first == 0xE0 && second < 0xA0) && !(first == 0xED && 0xA0 ≤ second)
    && !(first == 0xF0 && second < 0x90) && !(first == 0xF4 && 0x90 ≤ second)

/-- The symbol that starts with a byte, and how many of the bytes after it
belong to it. -/
def firstSymbol (b : UInt8) (rest : List UInt8) : Symbol × Nat :=
  if b < 0x80 then (some (Char.ofNat b.toNat), 0)
  else if b < 0xC2 || 0xF4 < b then (none, 0)
  else
    match rest with
    | [] => (none, 0)
    | c :: rest =>
      if !isSecond b c then (none, 0)
      else if b < 0xE0 then (some (Char.ofNat (b.toNat % 32 * 64 + trailBits c)), 1)
      else
        match rest with
        | [] => (none, 1)
        | d :: rest =>
          if !isTrail d then (none, 1)
          else if b < 0xF0 then
            (some (Char.ofNat ((b.toNat % 16 * 64 + trailBits c) * 64 + trailBits d)), 2)
          else
            match rest with
            | [] => (none, 2)
            | e :: _ =>
              if !isTrail e then (none, 2)
              else
                (some (Char.ofNat
                  (((b.toNat % 8 * 64 + trailBits c) * 64 + trailBits d) * 64 + trailBits e)), 3)

/-- The symbols of a byte sequence. -/
def readUtf8 : List UInt8 → List Symbol
  | [] => []
  | b :: rest =>
    let (symbol, used) := firstSymbol b rest
    symbol :: readUtf8 (rest.drop used)
termination_by bytes => bytes.length
decreasing_by rw [List.length_drop, List.length_cons]; omega

/-- The text of a byte sequence, with a replacement character in each gap. -/
def readLossy (bytes : List UInt8) : String :=
  String.ofList ((readUtf8 bytes).map (·.getD '\ufffd'))

/-- The text of a byte sequence that leaves no gap. -/
def readStrict? (bytes : List UInt8) : Option String :=
  ((readUtf8 bytes).mapM id).map String.ofList

end VmAssessment.Text
