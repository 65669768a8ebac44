/-
VmAssessment/Proofs/Settings/Durations.lean

A length of time is read back from what people write for it, to the
nanosecond: `Duration.parse?_text`.

There are two halves.  The text is a list of amounts with blanks between them,
and the reader adds them up one by one (`readAmounts?_amountTexts`); it never
meets a number that is too large, since no amount exceeds the whole.  And the
amounts of a length, of which the text leaves out the zeros, add up to it
(`sum_secondsOf`, `sum_nanosOf`).
-/
import Mathlib.Algebra.GroupWithZero.Nat
import VmAssessment.Duration
import VmAssessment.Proofs.Text.Runs

namespace VmAssessment

namespace Duration

/-- An amount as it is printed: how many, of which unit, and whether the unit
has a plural. -/
abbrev Amount := Nat × String × Bool

/-- The name that the unit of an amount is printed with. -/
def unitName (a : Amount) : List Char :=
  a.2.1.toList ++ if a.2.2 && 1 < a.1 then ['s'] else []

/-- The seconds that an amount comes to, if its unit is a second or more. -/
def secondsOf (a : Amount) : Nat :=
  match unit? (unitName a) with
  | some (.seconds each) => a.1 * each
  | _ => 0

/-- The nanoseconds that an amount comes to, if its unit is less than a
second. -/
def nanosOf (a : Amount) : Nat :=
  match unit? (unitName a) with
  | some (.nanoseconds each) => a.1 * each
  | _ => 0

/-- An amount of a unit whose name is read back. -/
structure IsKnown (a : Amount) : Prop where
  unit : (unit? (unitName a)).isSome
  letters : ∀ c ∈ unitName a, isUnitLetter c

/-! ### Characters -/

/-- A letter of a unit is no digit, no blank and no point. -/
theorem isUnitLetter_elim {c : Char} (hc : isUnitLetter c) :
    c.isDigit = false ∧ Text.isBlank c = false ∧ c ≠ '.' := by
  have hcode : c.isAlpha ∨ c = 'µ' := by simpa [isUnitLetter] using hc
  obtain halpha | rfl := hcode
  · have hbounds := Text.toNat_of_isAlpha halpha
    refine ⟨?_, Text.not_isBlank_of_isAlpha halpha, ?_⟩
    · refine Bool.eq_false_iff.2 fun hdigit => ?_
      have hrange := Text.toNat_of_isDigit hdigit
      omega
    · rintro rfl
      revert hbounds
      decide
  · decide

/-! ### Numbers -/

theorem le_ofDigitChars (cs : List Char) : ∀ n, n ≤ Nat.ofDigitChars 10 cs n := by
  induction cs with
  | nil => intro n; exact Nat.le_refl n
  | cons c cs ih =>
      intro n
      rw [Nat.ofDigitChars_cons]
      exact Nat.le_trans (by omega) (ih _)

theorem readNumber?_digits {c : Char} (hdigit : c.isDigit = false) (hblank : Text.isBlank c = false)
    (rest : List Char) : ∀ (cs : List Char) (n : Nat), (∀ d ∈ cs, d.isDigit) →
    Nat.ofDigitChars 10 cs n < 0x10000000000000000 →
    readNumber? n (cs ++ c :: rest) = some (Nat.ofDigitChars 10 cs n, c :: rest) := by
  intro cs
  induction cs with
  | nil => intro n _ _; simp [readNumber?, hdigit, hblank]
  | cons d cs ih =>
      intro n hcs hlt
      have hvalue : n * 10 + (d.toNat - 48) = 10 * n + (d.toNat - '0'.toNat) := by
        rw [Nat.mul_comm]; rfl
      have hd := hcs d (List.mem_cons_self ..)
      rw [Nat.ofDigitChars_cons, ← hvalue] at hlt ⊢
      have hword : word? (n * 10 + (d.toNat - 48)) = some (n * 10 + (d.toNat - 48)) :=
        if_pos (Nat.lt_of_le_of_lt (le_ofDigitChars cs _) hlt)
      rw [List.cons_append, readNumber?, if_pos hd, hword]
      exact ih _ (fun e he => hcs e (List.mem_cons_of_mem d he)) hlt

/-! ### One amount -/

variable {a : Amount} {d : Duration}

theorem toList_amountText (a : Amount) :
    (amountText a).toList = Nat.toDigits 10 a.1 ++ unitName a := by
  have hnumber : (toString a.1).toList = Nat.toDigits 10 a.1 := Nat.toList_repr
  simp only [amountText, unitName, String.toList_append, hnumber, List.append_assoc]
  split <;> rfl

/-- An amount is added as long as the result is not too long. -/
theorem addAmount?_known (h : IsKnown a) (hsecs : d.secs + secondsOf a < 0x10000000000000000)
    (hnanos : d.nanos + nanosOf a < 1000000000) :
    ∃ unit e, unit? (unitName a) = some unit ∧ d.addAmount? unit a.1 = some e
      ∧ e.secs = d.secs + secondsOf a ∧ e.nanos = d.nanos + nanosOf a := by
  have hof : ∀ {secs nanos : Nat}, secs < 0x10000000000000000 → nanos < 1000000000 →
      ∃ e, of? secs nanos = some e ∧ e.secs = secs ∧ e.nanos = nanos := by
    intro secs nanos hs hn
    have hcarry : nanos / 1000000000 = 0 := Nat.div_eq_of_lt hn
    exact ⟨_, dif_pos (by omega), by simp [hcarry], Nat.mod_eq_of_lt hn⟩
  obtain ⟨unit, hunit⟩ := Option.isSome_iff_exists.1 h.unit
  simp only [secondsOf, nanosOf, hunit] at hsecs hnanos ⊢
  cases unit with
  | seconds each =>
      obtain ⟨e, he, hs, hn⟩ := hof hsecs hnanos
      have hword : word? (a.1 * each) = some (a.1 * each) := if_pos (by simp at hsecs; omega)
      exact ⟨_, e, rfl, by simpa [addAmount?, hword, add?] using he, hs, hn⟩
  | nanoseconds each =>
      obtain ⟨e, he, hs, hn⟩ := hof hsecs hnanos
      have hword : word? (a.1 * each) = some (a.1 * each) := if_pos (by simp at hnanos; omega)
      have hsum : word? (d.nanos + a.1 * each) = some (d.nanos + a.1 * each) :=
        if_pos (by simp at hnanos; omega)
      exact ⟨_, e, rfl, by simpa [addAmount?, hword, hsum, add?] using he, hs, hn⟩

/-- The name of a unit starts with a letter. -/
theorem exists_unitName_cons (h : IsKnown a) : ∃ u name, unitName a = u :: name
    ∧ u.isDigit = false ∧ Text.isBlank u = false ∧ u ≠ '.' := by
  obtain ⟨u, name, hname⟩ : ∃ u name, unitName a = u :: name := by
    refine List.exists_cons_of_ne_nil fun hnil => ?_
    have hknown := h.unit
    rw [hnil] at hknown
    revert hknown
    decide
  exact ⟨u, name, hname, isUnitLetter_elim (h.letters u (by simp [hname]))⟩

/-- A number is read up to its unit. -/
theorem readNumber?_unitName (h : IsKnown a) (hnumber : a.1 < 0x10000000000000000) {c : Char}
    {digits : List Char} (hdigits : Nat.toDigits 10 a.1 = c :: digits)
    (hmore : ∀ d ∈ digits, d.isDigit) (tail : List Char) :
    readNumber? (c.toNat - 48) (digits ++ (unitName a ++ tail))
      = some (a.1, unitName a ++ tail) := by
  obtain ⟨u, name, hname, hdigit, hblank, -⟩ := exists_unitName_cons h
  have hvalue : Nat.ofDigitChars 10 digits (c.toNat - 48) = a.1 := by
    have hnumber := Nat.ofDigitChars_ten_toDigits (n := a.1)
    rw [hdigits, Nat.ofDigitChars_cons, Nat.mul_zero, Nat.zero_add] at hnumber
    exact hnumber
  rw [hname, List.cons_append, readNumber?_digits hdigit hblank _ _ _ hmore (by rwa [hvalue]),
    hvalue]

theorem readDecimals?_unitName (h : IsKnown a) (tail : List Char) :
    readDecimals? (unitName a ++ tail) = some (none, unitName a ++ tail) := by
  obtain ⟨u, name, hname, -, -, hpoint⟩ := exists_unitName_cons h
  rw [hname, List.cons_append]
  unfold readDecimals?
  split
  · rename_i heq; cases heq; exact absurd rfl hpoint
  · rfl

/-- An amount is read up to the end of its unit and added; after a blank the
next one is read. -/
theorem readAmounts?_amount (h : IsKnown a) (hnumber : a.1 < 0x10000000000000000)
    {unit : TimeUnit} (hunit : unit? (unitName a) = some unit) {e : Duration}
    (he : d.addAmount? unit a.1 = some e) {tail : List Char}
    (htail : tail = [] ∨ ∃ c rest, tail = ' ' :: c :: rest ∧ c.isDigit) (fuel : Nat) :
    readAmounts? (fuel + 1) d ((amountText a).toList ++ tail)
      = if tail = [] then some e else readAmounts? fuel e tail.tail := by
  obtain ⟨c, digits, hdigits, hfirst, hmore⟩ := Text.exists_toDigits a.1
  have hread := readNumber?_unitName h hnumber hdigits hmore tail
  have htake : (unitName a ++ tail).takeWhile isUnitLetter = unitName a := by
    refine Text.takeWhile_run h.letters fun b hb => ?_
    obtain rfl | ⟨d, rest, rfl, -⟩ := htail
    · cases hb
    · obtain rfl := Option.some.inj hb
      decide
  rw [toList_amountText, hdigits, List.append_assoc, List.cons_append, readAmounts?,
    if_pos hfirst]
  simp only [hread, readDecimals?_unitName h tail, htake, hunit, he, List.drop_left,
    Option.bind_eq_bind, Option.bind_some]
  obtain rfl | ⟨b, rest, rfl, hb⟩ := htail
  · rfl
  · have hskip : (' ' :: b :: rest).dropWhile Text.isBlank = b :: rest := by
      rw [List.dropWhile_cons_of_pos (by decide),
        List.dropWhile_cons_of_neg (by simp [Text.not_isBlank_of_isDigit hb])]
    have hspace : (Char.isDigit ' ' || Text.isBlank ' ') = true := by decide
    simp only [hskip, hspace, if_true]
    rfl

/-! ### A list of amounts -/

theorem toList_amountTexts (a b : Amount) (l : List Amount) :
    (" ".intercalate ((a :: b :: l).map amountText)).toList
      = (amountText a).toList ++ ' ' :: (" ".intercalate ((b :: l).map amountText)).toList := by
  simp [String.toList_intercalate, List.intercalate]

/-- A list of amounts starts with a digit. -/
theorem exists_isDigit_amountTexts (a : Amount) (l : List Amount) :
    ∃ c rest, (" ".intercalate ((a :: l).map amountText)).toList = c :: rest ∧ c.isDigit := by
  obtain ⟨c, digits, hdigits, hc, -⟩ := Text.exists_toDigits a.1
  cases l with
  | nil => exact ⟨c, digits ++ unitName a, by simp [toList_amountText, hdigits], hc⟩
  | cons b l =>
      rw [toList_amountTexts, toList_amountText, hdigits]
      exact ⟨c, _, rfl, hc⟩

theorem length_le_amountTexts (l : List Amount) :
    l.length ≤ (" ".intercalate (l.map amountText)).toList.length + 1 := by
  induction l with
  | nil => exact Nat.zero_le _
  | cons a l ih =>
      cases l with
      | nil => exact Nat.le_add_left ..
      | cons b l =>
          simp only [toList_amountTexts, List.length_append, List.length_cons] at ih ⊢
          omega

/-- Amounts with blanks between them are read and added in order, as long as
the result is not too long. -/
theorem readAmounts?_amountTexts : ∀ {l : List Amount} {fuel : Nat} {d : Duration}, l ≠ [] →
    l.length ≤ fuel → (∀ a ∈ l, IsKnown a ∧ a.1 < 0x10000000000000000) →
    d.secs + (l.map secondsOf).sum < 0x10000000000000000 →
    d.nanos + (l.map nanosOf).sum < 1000000000 →
    ∃ e, readAmounts? fuel d (" ".intercalate (l.map amountText)).toList = some e
      ∧ e.secs = d.secs + (l.map secondsOf).sum ∧ e.nanos = d.nanos + (l.map nanosOf).sum := by
  intro l
  induction l with
  | nil => intro fuel d h; exact absurd rfl h
  | cons a l ih =>
      intro fuel d _ hfuel hl hsecs hnanos
      obtain ⟨fuel, rfl⟩ : ∃ k, fuel = k + 1 := ⟨fuel - 1, by simp at hfuel; omega⟩
      obtain ⟨hknown, hnumber⟩ := hl a (List.mem_cons_self ..)
      -- the bounds for the whole sum bound what is added so far
      rw [List.map_cons, List.sum_cons, ← Nat.add_assoc] at hsecs hnanos
      obtain ⟨unit, e, hunit, he, hs, hn⟩ := addAmount?_known hknown (d := d) (by omega) (by omega)
      cases l with
      | nil =>
          have hlast := readAmounts?_amount hknown hnumber hunit he (.inl rfl) fuel
          rw [List.append_nil, if_pos rfl] at hlast
          exact ⟨e, by simpa using hlast, by simpa using hs, by simpa using hn⟩
      | cons b l =>
          obtain ⟨e', he', hs', hn'⟩ := ih (d := e) (List.cons_ne_nil b l) (by simpa using hfuel)
            (fun c hc => hl c (List.mem_cons_of_mem a hc)) (by rwa [hs]) (by rwa [hn])
          obtain ⟨c, rest, hnext, hc⟩ := exists_isDigit_amountTexts b l
          have hstep := readAmounts?_amount hknown hnumber hunit he (.inr ⟨c, rest, rfl, hc⟩) fuel
          rw [if_neg (List.cons_ne_nil _ _), List.tail_cons, ← hnext, ← toList_amountTexts] at hstep
          refine ⟨e', hstep.trans he', ?_, ?_⟩
          · rw [hs', hs, Nat.add_assoc]
            rfl
          · rw [hn', hn, Nat.add_assoc]
            rfl

/-! ### The amounts of a length -/

/-- A name, alone and with a plural if it has one, is that of a unit. -/
def IsUnit (p : String × Bool) (unit : TimeUnit) : Prop :=
  p.1.toList.all isUnitLetter ∧ unit? p.1.toList = some unit
    ∧ (p.2 → unit? (p.1.toList ++ ['s']) = some unit)

instance (p : String × Bool) (unit : TimeUnit) : Decidable (IsUnit p unit) :=
  inferInstanceAs (Decidable (_ ∧ _ ∧ _))

namespace IsUnit

variable {p : String × Bool} {unit : TimeUnit} {each : Nat}

theorem unit?_unitName (h : IsUnit p unit) (n : Nat) : unit? (unitName (n, p)) = some unit := by
  unfold unitName
  split
  · rename_i hplural
    exact h.2.2 (Bool.and_eq_true_iff.1 hplural).1
  · rw [List.append_nil]
    exact h.2.1

theorem isKnown (h : IsUnit p unit) (n : Nat) : IsKnown (n, p) where
  unit := Option.isSome_iff_exists.2 ⟨unit, h.unit?_unitName n⟩
  letters := by
    intro c hc
    obtain hname | hplural := List.mem_append.1 hc
    · exact List.all_eq_true.1 h.1 c hname
    · split at hplural
      · rw [List.mem_singleton.1 hplural]
        decide
      · cases hplural

theorem secondsOf_seconds (h : IsUnit p (.seconds each)) (n : Nat) :
    secondsOf (n, p) = n * each := by
  simp only [secondsOf, h.unit?_unitName]

theorem secondsOf_nanoseconds (h : IsUnit p (.nanoseconds each)) (n : Nat) :
    secondsOf (n, p) = 0 := by
  simp only [secondsOf, h.unit?_unitName]

theorem nanosOf_seconds (h : IsUnit p (.seconds each)) (n : Nat) : nanosOf (n, p) = 0 := by
  simp only [nanosOf, h.unit?_unitName]

theorem nanosOf_nanoseconds (h : IsUnit p (.nanoseconds each)) (n : Nat) :
    nanosOf (n, p) = n * each := by
  simp only [nanosOf, h.unit?_unitName]

theorem year : IsUnit ("year", true) (.seconds Duration.year) := by decide
theorem month : IsUnit ("month", true) (.seconds Duration.month) := by decide
theorem day : IsUnit ("day", true) (.seconds Duration.day) := by decide
theorem hour : IsUnit ("h", false) (.seconds 3600) := by decide
theorem minute : IsUnit ("m", false) (.seconds 60) := by decide
theorem second : IsUnit ("s", false) (.seconds 1) := by decide
theorem millisecond : IsUnit ("ms", false) (.nanoseconds 1000000) := by decide
theorem microsecond : IsUnit ("us", false) (.nanoseconds 1000) := by decide
theorem nanosecond : IsUnit ("ns", false) (.nanoseconds 1) := by decide

end IsUnit

theorem isKnown_of_mem_amounts (ha : a ∈ d.amounts) :
    IsKnown a ∧ a.1 < 0x10000000000000000 := by
  -- no remainder and no quotient exceeds the number it is taken of
  have hyear : d.secs % year ≤ d.secs := Nat.mod_le ..
  have hmonth : d.secs % year % month ≤ d.secs := Nat.le_trans (Nat.mod_le ..) hyear
  have hday : d.secs % year % month % day ≤ d.secs := Nat.le_trans (Nat.mod_le ..) hmonth
  have hhour : d.secs % year % month % day % 3600 ≤ d.secs := Nat.le_trans (Nat.mod_le ..) hday
  have hquotient : ∀ {r : Nat} (k : Nat), r ≤ d.secs → r / k < 0x10000000000000000 :=
    fun k hr => Nat.lt_of_le_of_lt (Nat.le_trans (Nat.div_le_self _ k) hr) d.secs_lt
  have hnanos := d.nanos_lt
  simp only [amounts, List.mem_cons, List.not_mem_nil, or_false] at ha
  obtain rfl | rfl | rfl | rfl | rfl | rfl | rfl | rfl | rfl := ha
  · exact ⟨IsUnit.year.isKnown _, hquotient year (Nat.le_refl _)⟩
  · exact ⟨IsUnit.month.isKnown _, hquotient month hyear⟩
  · exact ⟨IsUnit.day.isKnown _, hquotient day hmonth⟩
  · exact ⟨IsUnit.hour.isKnown _, hquotient 3600 hday⟩
  · exact ⟨IsUnit.minute.isKnown _, hquotient 60 hhour⟩
  · exact ⟨IsUnit.second.isKnown _,
      Nat.lt_of_le_of_lt (Nat.le_trans (Nat.mod_le ..) hday) d.secs_lt⟩
  · exact ⟨IsUnit.millisecond.isKnown _, by simp only; omega⟩
  · exact ⟨IsUnit.microsecond.isKnown _, by simp only; omega⟩
  · exact ⟨IsUnit.nanosecond.isKnown _, by simp only; omega⟩

/-- The amounts of a length, one by one. -/
theorem sum_amounts (f : Amount → Nat) (d : Duration) : (d.amounts.map f).sum
    = f (d.secs / year, "year", true) + (f (d.secs % year / month, "month", true)
      + (f (d.secs % year % month / day, "day", true)
      + (f (d.secs % year % month % day / 3600, "h", false)
      + (f (d.secs % year % month % day % 3600 / 60, "m", false)
      + (f (d.secs % year % month % day % 60, "s", false)
      + (f (d.nanos / 1000000, "ms", false) + (f (d.nanos / 1000 % 1000, "us", false)
      + f (d.nanos % 1000, "ns", false)))))))) := by
  -- `f` is a variable, as the units of a given one would be compared here as texts
  simp only [amounts, List.map_cons, List.map_nil, List.sum_cons, List.sum_nil, Nat.add_zero]

theorem sum_secondsOf (d : Duration) : (d.amounts.map secondsOf).sum = d.secs := by
  have hsecond : d.secs % year % month % day % 60 = d.secs % year % month % day % 3600 % 60 :=
    (Nat.mod_mod_of_dvd _ (by decide)).symm
  rw [sum_amounts, IsUnit.year.secondsOf_seconds, IsUnit.month.secondsOf_seconds,
    IsUnit.day.secondsOf_seconds, IsUnit.hour.secondsOf_seconds, IsUnit.minute.secondsOf_seconds,
    IsUnit.second.secondsOf_seconds, IsUnit.millisecond.secondsOf_nanoseconds,
    IsUnit.microsecond.secondsOf_nanoseconds, IsUnit.nanosecond.secondsOf_nanoseconds]
  -- from the seconds upwards, each unit adds what the one above it left
  simp only [Nat.mul_one, Nat.add_zero]
  rw [hsecond, Nat.div_add_mod', Nat.div_add_mod', Nat.div_add_mod', Nat.div_add_mod',
    Nat.div_add_mod']

theorem sum_nanosOf (d : Duration) : (d.amounts.map nanosOf).sum = d.nanos := by
  rw [sum_amounts, IsUnit.year.nanosOf_seconds, IsUnit.month.nanosOf_seconds,
    IsUnit.day.nanosOf_seconds, IsUnit.hour.nanosOf_seconds, IsUnit.minute.nanosOf_seconds,
    IsUnit.second.nanosOf_seconds, IsUnit.millisecond.nanosOf_nanoseconds,
    IsUnit.microsecond.nanosOf_nanoseconds, IsUnit.nanosecond.nanosOf_nanoseconds]
  omega

/-- What is left out because there is none of it adds nothing. -/
theorem sum_filter {f : Amount → Nat} (hf : ∀ a : Amount, a.1 = 0 → f a = 0) (l : List Amount) :
    ((l.filter (·.1 != 0)).map f).sum = (l.map f).sum := by
  induction l with
  | nil => rfl
  | cons a l ih =>
      by_cases ha : a.1 = 0
      · rw [List.filter_cons_of_neg (by simp [ha]), List.map_cons, List.sum_cons, hf a ha,
          Nat.zero_add, ih]
      · rw [List.filter_cons_of_pos (by simp [ha]), List.map_cons, List.map_cons, List.sum_cons,
          List.sum_cons, ih]

theorem secondsOf_of_zero (a : Amount) (ha : a.1 = 0) : secondsOf a = 0 := by
  unfold secondsOf
  split
  · rw [ha, Nat.zero_mul]
  · rfl

theorem nanosOf_of_zero (a : Amount) (ha : a.1 = 0) : nanosOf a = 0 := by
  unfold nanosOf
  split
  · rw [ha, Nat.zero_mul]
  · rfl

/-! ### The text of a length -/

/-- The amounts that are printed: all but the zeros. -/
def printed (d : Duration) : List Amount := d.amounts.filter (·.1 != 0)

theorem sum_secondsOf_printed (d : Duration) : (d.printed.map secondsOf).sum = d.secs := by
  rw [printed, sum_filter secondsOf_of_zero, sum_secondsOf]

theorem sum_nanosOf_printed (d : Duration) : (d.printed.map nanosOf).sum = d.nanos := by
  rw [printed, sum_filter nanosOf_of_zero, sum_nanosOf]

theorem text_eq (h : d.isZero = false) : d.text = " ".intercalate (d.printed.map amountText) := by
  rw [text, h]
  rfl

theorem printed_ne_nil (h : d.isZero = false) : d.printed ≠ [] := by
  intro hnil
  have hsecs := d.sum_secondsOf_printed
  have hnanos := d.sum_nanosOf_printed
  rw [hnil] at hsecs hnanos
  have hzero : d.isZero = true := by simp [isZero, ← hsecs, ← hnanos]
  rw [h] at hzero
  cases hzero

theorem eq_of_parts {d e : Duration} (hsecs : e.secs = d.secs) (hnanos : e.nanos = d.nanos) :
    e = d := by
  cases d
  cases e
  subst hsecs hnanos
  rfl

/-- The amounts are read from the text, added to nothing. -/
theorem readAmounts?_text (h : d.isZero = false) :
    readAmounts? (d.text.length + 1) zero d.text.toList = some d := by
  have hknown : ∀ a ∈ d.printed, IsKnown a ∧ a.1 < 0x10000000000000000 := fun a ha =>
    isKnown_of_mem_amounts (List.mem_filter.1 ha).1
  have hfuel : d.printed.length ≤ d.text.length + 1 := by
    rw [text_eq h]
    exact length_le_amountTexts d.printed
  -- the reader starts from nothing, so what it has added in the end is the whole length
  have hsecs : zero.secs + (d.printed.map secondsOf).sum = d.secs := by
    rw [sum_secondsOf_printed]
    exact Nat.zero_add d.secs
  have hnanos : zero.nanos + (d.printed.map nanosOf).sum = d.nanos := by
    rw [sum_nanosOf_printed]
    exact Nat.zero_add d.nanos
  obtain ⟨e, he, hs, hn⟩ := readAmounts?_amountTexts (d := zero) (printed_ne_nil h) hfuel hknown
    (hsecs ▸ d.secs_lt) (hnanos ▸ d.nanos_lt)
  rw [← text_eq h, eq_of_parts (hs.trans hsecs) (hn.trans hnanos)] at he
  exact he

/-- **A length of time is read back from its text.** -/
theorem parse?_text (d : Duration) : parse? d.text = some d := by
  cases hzero : d.isZero with
  | true =>
      have hparts : d.secs = 0 ∧ d.nanos = 0 := by simpa [isZero] using hzero
      have hd : zero = d := eq_of_parts hparts.1.symm hparts.2.symm
      rw [text, hzero, if_pos rfl, ← hd]
      decide
  | false =>
      have hread := readAmounts?_text hzero
      -- a bare zero has no unit, so the text is not one
      have hbare : d.text ≠ "0" := by
        intro hbare
        rw [hbare] at hread
        cases hread
      have hstart : d.text.toList.dropWhile Text.isBlank = d.text.toList := by
        obtain ⟨a, l, hl⟩ := List.exists_cons_of_ne_nil (printed_ne_nil hzero)
        obtain ⟨c, rest, hc, hdigit⟩ := exists_isDigit_amountTexts a l
        rw [text_eq hzero, hl, hc]
        exact List.dropWhile_cons_of_neg (by simp [Text.not_isBlank_of_isDigit hdigit])
      rw [parse?, if_neg (by simpa using hbare), hstart]
      exact hread

end Duration

end VmAssessment
