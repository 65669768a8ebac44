/-
VmAssessment/Proofs/Text/Utf8.lean

The bytes of a text are those of its characters (`toList_toUTF8`), and read as
the text (`readStrict?_toUTF8`).  Decoding goes by the number of bytes that a
character takes; within each number it is arithmetic.
-/
import VmAssessment.Text.Utf8

namespace VmAssessment.Text

/-! ### The bytes of a text -/

theorem toList_loop (bytes : ByteArray) (i : Nat) (out : List UInt8) :
    ByteArray.toList.loop bytes i out = out.reverse ++ bytes.data.toList.drop i := by
  induction i, out using ByteArray.toList.loop.induct bytes with
  | case1 i out h ih =>
      have hi : i < bytes.data.toList.length := by simpa using h
      rw [ByteArray.toList.loop, if_pos h, ih, List.drop_eq_getElem_cons hi]
      simp [ByteArray.get!, h]
  | case2 i out h =>
      rw [ByteArray.toList.loop, if_neg h, List.drop_eq_nil_of_le (by simpa using h)]
      simp

theorem toList_toUTF8 (s : String) : s.toUTF8.toList = s.toList.flatMap String.utf8EncodeChar := by
  have hbytes : s.toByteArray = s.toList.utf8Encode := by
    rw [← String.toByteArray_ofList, String.ofList_toList]
  rw [String.toUTF8_eq_toByteArray, hbytes, List.utf8Encode, ByteArray.toList, toList_loop,
    List.toList_data_toByteArray]
  rfl

/-! ### Reading them -/

section FirstSymbol

variable {b c d e : UInt8} {rest : List UInt8}

theorem isTrail_iff : isTrail b ↔ 0x80 ≤ b.toNat ∧ b.toNat ≤ 0xBF := by
  simp [isTrail, UInt8.le_iff_toNat_le]

theorem isSecond_iff : isSecond b c ↔ (0x80 ≤ c.toNat ∧ c.toNat ≤ 0xBF)
    ∧ (b.toNat = 0xE0 → 0xA0 ≤ c.toNat) ∧ (b.toNat = 0xED → c.toNat < 0xA0)
    ∧ (b.toNat = 0xF0 → 0x90 ≤ c.toNat) ∧ (b.toNat = 0xF4 → c.toNat < 0x90) := by
  simp [isSecond, isTrail_iff, UInt8.le_iff_toNat_le, UInt8.lt_iff_toNat_lt, ← UInt8.toNat_inj]
  omega

theorem firstSymbol_one (hb : b.toNat < 0x80) :
    firstSymbol b rest = (some (Char.ofNat b.toNat), 0) :=
  if_pos (UInt8.lt_iff_toNat_lt.2 hb)

theorem firstSymbol_two (hb : 0xC2 ≤ b.toNat ∧ b.toNat < 0xE0) (hc : isSecond b c) :
    firstSymbol b (c :: rest) = (some (Char.ofNat (b.toNat % 32 * 64 + c.toNat % 64)), 1) := by
  simp [firstSymbol, hc, UInt8.lt_iff_toNat_lt, trailBits]
  rw [if_neg (by omega), if_neg (by omega), if_pos (by omega)]

theorem firstSymbol_three (hb : 0xE0 ≤ b.toNat ∧ b.toNat < 0xF0) (hc : isSecond b c)
    (hd : isTrail d) :
    firstSymbol b (c :: d :: rest)
      = (some (Char.ofNat ((b.toNat % 16 * 64 + c.toNat % 64) * 64 + d.toNat % 64)), 2) := by
  simp [firstSymbol, hc, hd, UInt8.lt_iff_toNat_lt, trailBits]
  rw [if_neg (by omega), if_neg (by omega), if_neg (by omega), if_pos (by omega)]

theorem firstSymbol_four (hb : 0xF0 ≤ b.toNat ∧ b.toNat ≤ 0xF4) (hc : isSecond b c)
    (hd : isTrail d) (he : isTrail e) :
    firstSymbol b (c :: d :: e :: rest)
      = (some (Char.ofNat
          (((b.toNat % 8 * 64 + c.toNat % 64) * 64 + d.toNat % 64) * 64 + e.toNat % 64)), 3) := by
  simp [firstSymbol, hc, hd, he, UInt8.lt_iff_toNat_lt, trailBits]
  rw [if_neg (by omega), if_neg (by omega), if_neg (by omega), if_neg (by omega)]

end FirstSymbol

/-- The first byte of a character tells how many follow, and with them gives
the character. -/
theorem firstSymbol_utf8EncodeChar (c : Char) (rest : List UInt8) :
    ∃ b tail, String.utf8EncodeChar c = b :: tail
      ∧ firstSymbol b (tail ++ rest) = (some c, tail.length) := by
  have hvalid : c.toNat < 0xD800 ∨ 0xDFFF < c.toNat ∧ c.toNat < 0x110000 := c.valid
  have hchar : ∀ n, n = c.toNat → Char.ofNat n = c := fun n hn => by rw [hn, Char.ofNat_toNat]
  have hbyte : ∀ n < 256, (UInt8.ofNat n).toNat = n := fun n hn => by
    rw [UInt8.toNat_ofNat']
    omega
  have hvalue : c.val.toNat = c.toNat := rfl
  -- from here on the character is its number, and all is arithmetic on six-bit groups
  generalize c.toNat = n at hvalid hchar hvalue
  have hlast := hbyte (n % 64 + 128) (by omega)
  have hthird := hbyte (n / 64 % 64 + 128) (by omega)
  have hsecond := hbyte (n / 4096 % 64 + 128) (by omega)
  simp only [String.utf8EncodeChar, hvalue]
  split
  · -- one byte
    have hfirst := hbyte n (by omega)
    refine ⟨_, _, rfl, ?_⟩
    rw [List.nil_append, firstSymbol_one (by omega), hchar _ (by omega)]
    rfl
  split
  · -- two bytes
    have hfirst := hbyte (n / 64 % 32 + 192) (by omega)
    refine ⟨_, _, rfl, ?_⟩
    rw [List.cons_append, firstSymbol_two (by omega) (isSecond_iff.2 (by omega)),
      hchar _ (by omega)]
    rfl
  split
  · -- three bytes; what the second one must not be are the surrogates
    have hfirst := hbyte (n / 4096 % 16 + 224) (by omega)
    refine ⟨_, _, rfl, ?_⟩
    rw [List.cons_append, List.cons_append, firstSymbol_three (by omega)
      (isSecond_iff.2 (by omega)) (isTrail_iff.2 (by omega)), hchar _ (by omega)]
    rfl
  · -- four bytes; what the second one must not be is past the last character
    have hfirst := hbyte (n / 262144 % 8 + 240) (by omega)
    refine ⟨_, _, rfl, ?_⟩
    rw [List.cons_append, List.cons_append, List.cons_append, firstSymbol_four (by omega)
      (isSecond_iff.2 (by omega)) (isTrail_iff.2 (by omega)) (isTrail_iff.2 (by omega)),
      hchar _ (by omega)]
    rfl

theorem readUtf8_flatMap (cs : List Char) :
    readUtf8 (cs.flatMap String.utf8EncodeChar) = cs.map some := by
  induction cs with
  | nil => rw [List.flatMap_nil, readUtf8]; rfl
  | cons c cs ih =>
      obtain ⟨b, tail, hbytes, hfirst⟩ :=
        firstSymbol_utf8EncodeChar c (cs.flatMap String.utf8EncodeChar)
      rw [List.flatMap_cons, hbytes, List.cons_append, readUtf8]
      simp only [hfirst, List.drop_left, ih]
      rfl

/-- **The bytes of a text are read as the text.** -/
theorem readStrict?_toUTF8 (s : String) : readStrict? s.toUTF8.toList = some s := by
  have hall : ∀ cs : List Char, (cs.map some).mapM id = some cs := by
    intro cs
    induction cs with
    | nil => rfl
    | cons c cs ih => simp [ih]
  rw [readStrict?, toList_toUTF8, readUtf8_flatMap, hall]
  simp

end VmAssessment.Text
