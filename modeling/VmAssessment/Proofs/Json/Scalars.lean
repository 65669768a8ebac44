/-
VmAssessment/Proofs/Json/Scalars.lean

The strings and the numbers of JSON are read back as they are printed.

In a string each character stands as it is, or as an escape that names it
(`escapeChar_cases`), and is read in one go; so the whole text comes back
(`readString?_text`).

A number is `Proper` if it has digits only and no zero in front of others.
What may follow it, `Follows`, is a comma, a closing bracket or nothing: the
first symbol that is no part of a number, which is where the reader stops
(`readNumeral?_render`).
-/
import VmAssessment.Json.Printer
import VmAssessment.Json.Reader
import VmAssessment.Proofs.Text.Runs

namespace VmAssessment.Json

open Text (Symbol)

/-! ### Strings -/

theorem hexValue?_hexDigit : ∀ n < 16, hexValue? (hexDigit n) = some n := by decide

theorem readUnit?_hexDigit {c : Char} (hc : c.toNat < 0x100) (rest : List Symbol) :
    readUnit? (['0', '0', hexDigit (c.toNat / 16), hexDigit (c.toNat % 16)].map some ++ rest)
      = some (c.toNat, rest) := by
  have hhigh := hexValue?_hexDigit (c.toNat / 16) (by omega)
  have hlow := hexValue?_hexDigit (c.toNat % 16) (by omega)
  have hzero : hexValue? '0' = some 0 := by decide
  have hsum : c.toNat / 16 * 16 + c.toNat % 16 = c.toNat := by omega
  simp [readUnit?, hzero, hhigh, hlow, hsum]

/-- Inside a string a character stands as it is, or as an escape of one letter,
or by its number. -/
theorem escapeChar_cases (c : Char) :
    (escapeChar c = [c] ∧ c ≠ '"' ∧ c ≠ '\\' ∧ ¬ c.toNat < 0x20)
      ∨ (∃ e, escapeChar c = ['\\', e] ∧ escaped? e = some c)
      ∨ (escapeChar c
          = '\\' :: 'u' :: ['0', '0', hexDigit (c.toNat / 16), hexDigit (c.toNat % 16)]
        ∧ c.toNat < 0x20) := by
  by_cases hquote : c = '"'
  · exact .inr (.inl ⟨'"', by simp [escapeChar, hquote], by simp [escaped?, hquote]⟩)
  by_cases hslash : c = '\\'
  · exact .inr (.inl ⟨'\\', by simp [escapeChar, hslash], by simp [escaped?, hslash]⟩)
  by_cases hline : c = '\n'
  · exact .inr (.inl ⟨'n', by simp [escapeChar, hline], by simp [escaped?, hline]⟩)
  by_cases hreturn : c = '\r'
  · exact .inr (.inl ⟨'r', by simp [escapeChar, hreturn], by simp [escaped?, hreturn]⟩)
  by_cases htab : c = '\t'
  · exact .inr (.inl ⟨'t', by simp [escapeChar, htab], by simp [escaped?, htab]⟩)
  by_cases hback : c = '\x08'
  · exact .inr (.inl ⟨'b', by simp [escapeChar, hback], by simp [escaped?, hback]⟩)
  by_cases hfeed : c = '\x0c'
  · exact .inr (.inl ⟨'f', by simp [escapeChar, hfeed], by simp [escaped?, hfeed]⟩)
  -- no letter is left: a control character goes by its number, all else as it is
  by_cases hcontrol : c.toNat < 0x20
  · refine .inr (.inr ⟨?_, hcontrol⟩)
    simp [escapeChar, hquote, hslash, hline, hreturn, htab, hback, hfeed, hcontrol]
  · refine .inl ⟨?_, hquote, hslash, hcontrol⟩
    simp [escapeChar, hquote, hslash, hline, hreturn, htab, hback, hfeed, hcontrol]

theorem escapeChar_ne_nil (c : Char) : escapeChar c ≠ [] := by
  obtain ⟨hc, -⟩ | ⟨e, hc, -⟩ | ⟨hc, -⟩ := escapeChar_cases c <;> simp [hc]

/-- An escaped character is read in one go, as itself. -/
theorem readString?_escapeChar (c : Char) (fuel : Nat) (text : List Char) (rest : List Symbol) :
    readString? (fuel + 1) (some text) ((escapeChar c).map some ++ rest)
      = readString? fuel (some (c :: text)) rest := by
  obtain ⟨hc, hquote, hslash, hplain⟩ | ⟨e, hc, he⟩ | ⟨hc, hcontrol⟩ := escapeChar_cases c
  · rw [hc]
    simp [readString?, hquote, hslash, hplain]
  · -- the letter is not the one that announces a number
    have hu : e ≠ 'u' := by
      rintro rfl
      cases he
    rw [hc]
    simp [readString?, he]
  · have hunit := readUnit?_hexDigit (c := c) (by omega) rest
    have hpair : pairUp c.toNat rest = (some c, rest) := by
      rw [pairUp, if_neg (by simp; omega), if_neg (by simp; omega), Char.ofNat_toNat]
    rw [hc]
    simp only [List.map_cons, List.map_nil, List.cons_append, List.nil_append] at hunit ⊢
    simp [readString?, hunit, hpair]

/-- The reader keeps the characters it has met, last first, and turns them round
at the closing quote. -/
theorem readString?_flatMap (rest : List Symbol) : ∀ (cs text : List Char) (fuel : Nat),
    (cs.flatMap escapeChar).length < fuel →
    readString? fuel (some text) ((cs.flatMap escapeChar).map some ++ some '"' :: rest)
      = some (some (String.ofList (text.reverse ++ cs)), rest) := by
  intro cs
  induction cs with
  | nil =>
      intro text fuel hfuel
      obtain ⟨fuel, rfl⟩ : ∃ k, fuel = k + 1 := ⟨fuel - 1, by omega⟩
      simp [readString?]
  | cons c cs ih =>
      intro text fuel hfuel
      obtain ⟨fuel, rfl⟩ : ∃ k, fuel = k + 1 := ⟨fuel - 1, by omega⟩
      -- an escape is never empty, so one unit of fuel is enough for it
      have hpos := List.length_pos_iff.2 (escapeChar_ne_nil c)
      rw [List.flatMap_cons, List.length_append] at hfuel
      rw [List.flatMap_cons, List.map_append, List.append_assoc, readString?_escapeChar,
        ih (c :: text) fuel (by omega)]
      simp

theorem renderText_append (s : String) (tail : List Char) :
    renderText s ++ tail = '"' :: (s.toList.flatMap escapeChar ++ '"' :: tail) := by
  simp [renderText]

/-- A text is read back behind its opening quote. -/
theorem readString?_text {s : String} {tail : List Char} {fuel : Nat}
    (hfuel : (renderText s ++ tail).length ≤ fuel + 1) :
    readString? fuel (some []) ((s.toList.flatMap escapeChar ++ '"' :: tail).map some)
      = some (some s, tail.map some) := by
  rw [renderText_append] at hfuel
  simp only [List.length_cons, List.length_append] at hfuel
  rw [List.map_append, List.map_cons, readString?_flatMap _ _ _ _ (by omega)]
  simp

/-! ### Numbers -/

/-- Digits only, and no zero in front of others. -/
structure Numeral.Proper (n : Numeral) : Prop where
  nonempty : n.whole ≠ []
  unpadded : n.whole.head? = some 0 → n.whole = [0]
  digits : ∀ d ∈ n.whole ++ n.fraction, d < 10

/-- What may follow a value: a comma, a closing bracket, or nothing. -/
def Follows (tail : List Char) : Prop := ∀ c ∈ tail.head?, c ∈ [',', ']', '\x7d']

theorem follows_nil : Follows [] := nofun

theorem follows_cons {c : Char} {tail : List Char} (hc : c ∈ [',', ']', '\x7d']) :
    Follows (c :: tail) := by
  intro d hd
  rwa [← Option.some.inj hd]

theorem readDigits_append {cs : List Char} (hcs : ∀ c ∈ cs, c.isDigit) {rest : List Symbol}
    (hrest : readDigits rest = ([], rest)) :
    readDigits (cs.map some ++ rest) = (cs.map fun c => c.toNat - 48, rest) := by
  induction cs with
  | nil => exact hrest
  | cons c cs ih =>
      have hc : '0' ≤ c ∧ c ≤ '9' := by
        simpa [Char.isDigit, Char.le_def] using hcs c (List.mem_cons_self ..)
      have hmore := ih fun d hd => hcs d (List.mem_cons_of_mem c hd)
      simp [readDigits, hc, hmore]

theorem isDigit_digitChar : ∀ d < 10, (digitChar d).isDigit := by decide

theorem toNat_digitChar : ∀ d < 10, (digitChar d).toNat - 48 = d := by decide

theorem readDigits_map {ds : List Nat} (hds : ∀ d ∈ ds, d < 10) {rest : List Symbol}
    (hrest : readDigits rest = ([], rest)) :
    readDigits ((ds.map digitChar).map some ++ rest) = (ds, rest) := by
  have hchars : ∀ c ∈ ds.map digitChar, c.isDigit := by
    intro c hc
    obtain ⟨d, hd, rfl⟩ := List.mem_map.1 hc
    exact isDigit_digitChar d (hds d hd)
  have hback : (ds.map digitChar).map (fun c => c.toNat - 48) = ds := by
    rw [List.map_map]
    exact (List.map_congr_left fun d hd => toNat_digitChar d (hds d hd)).trans (List.map_id ds)
  rw [readDigits_append hchars hrest, hback]

/-- A number ends where something follows that is no part of one. -/
theorem Follows.ends {tail : List Char} (h : Follows tail) :
    readDigits (tail.map some) = ([], tail.map some)
      ∧ readFraction? (tail.map some) = some ([], tail.map some)
      ∧ readExponent? (tail.map some) = some (none, tail.map some) := by
  cases tail with
  | nil => exact ⟨rfl, rfl, rfl⟩
  | cons c tail =>
      have hc : c = ',' ∨ c = ']' ∨ c = '\x7d' := by simpa using h c rfl
      rcases hc with rfl | rfl | rfl <;> exact ⟨rfl, rfl, rfl⟩

/-- The exponent of a number, as it is printed. -/
def Numeral.exponentText (n : Numeral) : List Char :=
  match n.exponent with
  | none => []
  | some e => 'e' :: (toString e).toList

/-- The fraction of a number, as it is printed. -/
def Numeral.fractionText (n : Numeral) : List Char :=
  if n.fraction.isEmpty then [] else '.' :: n.fraction.map digitChar

theorem Numeral.render_eq (n : Numeral) :
    n.render = (if n.negative then ['-'] else [])
      ++ (n.whole.map digitChar ++ (n.fractionText ++ n.exponentText)) := by
  have hparts : n.render = (if n.negative then ['-'] else []) ++ n.whole.map digitChar
      ++ n.fractionText ++ n.exponentText := rfl
  simp only [hparts, List.append_assoc]

section
variable {n : Numeral} {tail : List Char}

theorem readExponentDigits?_toDigits (negative : Bool) (k : Nat) (h : Follows tail) :
    readExponentDigits? negative ((Nat.toDigits 10 k ++ tail).map some)
      = some (some (if negative then -(k : Int) else k), tail.map some) := by
  have hdigits : ∀ c ∈ Nat.toDigits 10 k, c.isDigit := fun c =>
    Nat.isDigit_of_mem_toDigits (by decide) (by decide)
  have hvalue : ofDigits ((Nat.toDigits 10 k).map fun c => c.toNat - 48) = k := by
    rw [ofDigits, List.foldl_map]
    have hchars := Nat.ofDigitChars_ten_toDigits (n := k)
    rw [Nat.ofDigitChars_eq_foldl] at hchars
    simpa [Nat.mul_comm] using hchars
  obtain ⟨c, l, hl⟩ := List.exists_cons_of_ne_nil (Nat.toDigits_ne_nil (n := k) (b := 10))
  rw [readExponentDigits?, List.map_append, readDigits_append hdigits h.ends.1]
  rw [hl] at hvalue ⊢
  simp only [List.map_cons] at hvalue ⊢
  simp only [hvalue]

theorem readExponent?_exponentText (h : Follows tail) :
    readExponent? ((n.exponentText ++ tail).map some) = some (n.exponent, tail.map some) := by
  rw [Numeral.exponentText]
  match n.exponent with
  | none => exact h.ends.2.2
  | some (.ofNat k) =>
      have htext : (toString (Int.ofNat k)).toList = Nat.toDigits 10 k := Nat.toList_repr
      have hread := readExponentDigits?_toDigits false k h
      obtain ⟨c, l, hl, hc, -⟩ := Text.exists_toDigits k
      -- the first digit is no sign
      have hplus : c ≠ '+' := by
        rintro rfl
        exact absurd hc (by decide)
      have hminus : c ≠ '-' := by
        rintro rfl
        exact absurd hc (by decide)
      rw [hl] at hread
      simp only [htext, hl]
      simpa [readExponent?, hplus, hminus] using hread
  | some (.negSucc k) =>
      have htext : (toString (Int.negSucc k)).toList = '-' :: Nat.toDigits 10 (k + 1) := by
        show ("-" ++ toString (k + 1)).toList = _
        rw [String.toList_append]
        exact congrArg ('-' :: ·) Nat.toList_repr
      have hread := readExponentDigits?_toDigits true (k + 1) h
      simp only [htext]
      simpa [readExponent?, Int.negSucc_eq] using hread

/-- An exponent is neither a digit nor a point. -/
theorem exponentText_ends (n : Numeral) (h : Follows tail) :
    readDigits ((n.exponentText ++ tail).map some) = ([], (n.exponentText ++ tail).map some)
      ∧ readFraction? ((n.exponentText ++ tail).map some)
        = some ([], (n.exponentText ++ tail).map some) := by
  rw [Numeral.exponentText]
  cases n.exponent with
  | none => exact ⟨h.ends.1, h.ends.2.1⟩
  | some e => exact ⟨rfl, rfl⟩

theorem readFraction?_fractionText (hn : n.Proper) (h : Follows tail) :
    readFraction? ((n.fractionText ++ (n.exponentText ++ tail)).map some)
      = some (n.fraction, (n.exponentText ++ tail).map some) := by
  obtain ⟨hdigits, hpoint⟩ := exponentText_ends n h
  rw [Numeral.fractionText]
  cases hfraction : n.fraction with
  | nil => exact hpoint
  | cons d ds =>
      have hmem : ∀ e ∈ d :: ds, e < 10 := fun e he =>
        hn.digits e (List.mem_append_right _ (hfraction ▸ he))
      have hread := readDigits_map hmem hdigits
      rw [← List.map_append] at hread
      simp only [List.isEmpty_cons, Bool.false_eq_true, if_false, List.cons_append, List.map_cons]
        at hread ⊢
      rw [readFraction?, hread]

theorem readDigits_fractionText (h : Follows tail) :
    readDigits ((n.fractionText ++ (n.exponentText ++ tail)).map some)
      = ([], (n.fractionText ++ (n.exponentText ++ tail)).map some) := by
  rw [Numeral.fractionText]
  cases n.fraction with
  | nil => exact (exponentText_ends n h).1
  | cons d ds => rfl

/-- A number is read back behind its sign. -/
theorem readNumeral?_render (hn : n.Proper) (h : Follows tail) :
    readNumeral? n.negative
        ((n.whole.map digitChar ++ (n.fractionText ++ (n.exponentText ++ tail))).map some)
      = some (n, tail.map some) := by
  have hwhole := readDigits_map (fun d hd => hn.digits d (List.mem_append_left _ hd))
    (readDigits_fractionText (n := n) h)
  have hfraction := readFraction?_fractionText hn h
  have hexponent := readExponent?_exponentText (n := n) h
  rw [← List.map_append] at hwhole
  rw [readNumeral?, hwhole]
  simp only [hfraction, hexponent, Option.bind_eq_bind, Option.bind_some]
  -- the reader refuses an empty whole part and a padded one
  split
  next hnil => exact absurd hnil hn.nonempty
  next hpadded => cases hpadded.symm.trans (hn.unpadded (by rw [hpadded]; rfl))
  next => rfl

end

end VmAssessment.Json
