/-
VmAssessment/Proofs/Toml/Strings.lean

Strings are read back as they were written, whichever of the four ways to
quote was chosen: `readText?_writeText`.

Characters come first: each is written as it is or as an escape that names it
(`escapeChar_cases`).  A short string is then read character by character.  In
a long string quotes may stand as they are, and the reader takes the last ones
for the end.  What keeps it from ending too early is that no more than two
quotes stand in a row, which `Spelled` says of what lies between the
delimiters; both writers keep to it, the literal one by its choice and the
other by counting.
-/
import Mathlib.Data.List.TakeWhile
import VmAssessment.Proofs.Text.Runs
import VmAssessment.Toml.Text

namespace VmAssessment.Toml

variable {quote : Char} {escapes : Bool} {cs : List Char}

/-! ### Single characters -/

theorem hexValue?_hexDigit : ∀ n < 16, hexValue? (hexDigit n) = some n := by decide

theorem readCode?_hexDigit {c : Char} (hc : c.toNat < 0x100) (rest : List Char) :
    readCode? 4 (['0', '0', hexDigit (c.toNat / 16), hexDigit (c.toNat % 16)] ++ rest)
      = some (c, rest) := by
  have hhigh := hexValue?_hexDigit (c.toNat / 16) (by omega)
  have hlow := hexValue?_hexDigit (c.toNat % 16) (by omega)
  have hzero : hexValue? '0' = some 0 := by decide
  have hsum : c.toNat / 16 * 16 + c.toNat % 16 = c.toNat := by omega
  have hvalid : c.toNat.isValidChar := c.valid
  simp [readCode?, hzero, hhigh, hlow, hsum, hvalid, Char.ofNat_toNat]

/-- Inside a string with escapes a character stands as it is, where that is
allowed, or as an escape that names it. -/
theorem escapeChar_cases (long : Bool) (c : Char) :
    (escapeChar long c = [c] ∧ (isPlain c ∨ long ∧ c = '\n') ∧ c ≠ '\\')
      ∨ ∃ e, escapeChar long c = '\\' :: e ∧ ∀ rest, readEscape? (e ++ rest) = some (c, rest) := by
  by_cases hslash : c = '\\'
  · exact .inr ⟨['\\'], by simp [escapeChar, hslash], by simp [readEscape?, hslash]⟩
  by_cases hback : c = '\x08'
  · exact .inr ⟨['b'], by simp [escapeChar, hback], by simp [readEscape?, hback]⟩
  by_cases htab : c = '\t'
  · exact .inr ⟨['t'], by simp [escapeChar, htab], by simp [readEscape?, htab]⟩
  by_cases hfeed : c = '\x0c'
  · exact .inr ⟨['f'], by simp [escapeChar, hfeed], by simp [readEscape?, hfeed]⟩
  by_cases hreturn : c = '\r'
  · exact .inr ⟨['r'], by simp [escapeChar, hreturn], by simp [readEscape?, hreturn]⟩
  by_cases hline : c = '\n'
  · cases long with
    | true => exact .inl ⟨by simp [escapeChar, hline], .inr ⟨rfl, hline⟩, hslash⟩
    | false => exact .inr ⟨['n'], by simp [escapeChar, hline], by simp [readEscape?, hline]⟩
  by_cases hcontrol : c.toNat < 0x20 ∨ c.toNat = 0x7F
  · refine .inr ⟨'u' :: ['0', '0', hexDigit (c.toNat / 16), hexDigit (c.toNat % 16)], ?_,
      fun rest => readCode?_hexDigit (by omega) rest⟩
    simp [escapeChar, hslash, hback, htab, hfeed, hreturn, hline, hcontrol]
  · refine .inl ⟨?_, .inl ?_, hslash⟩
    · simp [escapeChar, hslash, hback, htab, hfeed, hreturn, hline, hcontrol]
    · simp only [isPlain, Bool.or_eq_true, Bool.and_eq_true, decide_eq_true_eq, bne_iff_ne]
      omega

theorem isPlain_of_not_needsEscape {c : Char} (hc : needsEscape c = false) :
    isPlain c ∨ c = '\n' := by
  by_cases hline : c = '\n'
  · exact .inr hline
  by_cases htab : c = '\t'
  · exact .inl (by simp [isPlain, htab])
  · simp [needsEscape, hline, htab] at hc
    simp [isPlain, hc]

/-! ### Strings on one line -/

theorem readBasic?_writeEscaped (rest : List Char) : ∀ (cs : List Char) (fuel : Nat)
    (out : List Char), cs.length < fuel →
    readBasic? fuel out (writeEscaped false 0 cs ++ '"' :: rest)
      = some (String.ofList (out.reverse ++ cs), rest) := by
  intro cs
  induction cs with
  | nil =>
      intro fuel out hfuel
      obtain ⟨fuel, rfl⟩ : ∃ k, fuel = k + 1 := ⟨fuel - 1, by simp at hfuel; omega⟩
      simp [writeEscaped, readBasic?]
  | cons c cs ih =>
      intro fuel out hfuel
      obtain ⟨fuel, rfl⟩ : ∃ k, fuel = k + 1 := ⟨fuel - 1, by simp at hfuel; omega⟩
      have hrest := ih fuel (c :: out) (by simpa using hfuel)
      rw [List.reverse_cons, List.append_assoc, List.singleton_append] at hrest
      by_cases hquote : c = '"'
      · subst hquote
        simpa [writeEscaped, readBasic?, readEscape?] using hrest
      · obtain ⟨hc, hplain, hslash⟩ | ⟨e, hc, he⟩ := escapeChar_cases false c
        · have hplain : isPlain c := by simpa using hplain
          simpa [writeEscaped, hquote, hc, readBasic?, hslash, hplain] using hrest
        · simpa [writeEscaped, hquote, hc, readBasic?, he] using hrest

theorem readLiteral?_append (rest : List Char) : ∀ (cs out : List Char),
    (∀ c ∈ cs, isPlain c ∧ c ≠ '\'') →
    readLiteral? out (cs ++ '\'' :: rest) = some (String.ofList (out.reverse ++ cs), rest) := by
  intro cs
  induction cs with
  | nil => intro out _; simp [readLiteral?]
  | cons c cs ih =>
      intro out hcs
      obtain ⟨hplain, hquote⟩ := hcs c (List.mem_cons_self ..)
      have hrest := ih (c :: out) fun d hd => hcs d (List.mem_cons_of_mem c hd)
      simpa [readLiteral?, hquote, hplain] using hrest

/-! ### Long strings -/

/-- What stands between long quotes, and the text it denotes; no more than two
quotes stand in a row. -/
inductive Spelled (quote : Char) (escapes : Bool) : List Char → List Char → Prop
  | nil : Spelled quote escapes [] []
  | quote {w cs : List Char} : (w.takeWhile (· == quote)).length ≤ 1 →
      Spelled quote escapes w cs → Spelled quote escapes (quote :: w) (quote :: cs)
  | plain {c : Char} {w cs : List Char} : isPlain c ∨ c = '\n' → c ≠ quote →
      (escapes → c ≠ '\\') → Spelled quote escapes w cs → Spelled quote escapes (c :: w) (c :: cs)
  | escape {c : Char} {e w cs : List Char} : escapes → quote ≠ '\\' →
      (∀ rest, readEscape? (e ++ rest) = some (c, rest)) →
      Spelled quote escapes w cs → Spelled quote escapes ('\\' :: e ++ w) (c :: cs)

namespace Spelled

variable {w : List Char}

theorem length_le (h : Spelled quote escapes w cs) : cs.length ≤ w.length := by
  induction h with
  | nil => exact Nat.le_refl _
  | quote _ _ ih => simpa using ih
  | plain _ _ _ _ ih => simpa using ih
  | escape _ _ _ _ ih => simp only [List.length_append, List.length_cons]; omega

/-- Nothing but quotes denotes as many quotes. -/
theorem eq_of_all (h : Spelled quote escapes w cs) (hw : ∀ c ∈ w, c = quote) : cs = w := by
  induction h with
  | nil => rfl
  | quote _ _ ih => rw [ih fun c hc => hw c (List.mem_cons_of_mem _ hc)]
  | plain _ hne _ _ _ => exact absurd (hw _ (List.mem_cons_self ..)) hne
  | escape _ hne _ _ _ => exact absurd (hw '\\' (by simp)).symm hne

end Spelled

/-- The end of a long string, with the quotes before it that belong to it. -/
theorem closing?_end {k : Nat} (hk : k ≤ 2) {rest : List Char} (hrest : rest.head? ≠ some quote) :
    closing? quote (List.replicate k quote ++ quote :: quote :: quote :: rest)
      = some (k, rest) := by
  have hshape : List.replicate k quote ++ quote :: quote :: quote :: rest
      = List.replicate (k + 3) quote ++ rest := by
    rw [List.replicate_append_replicate.symm, List.append_assoc]; rfl
  have hend : ∀ c ∈ rest.head?, (c == quote) = false := by
    intro c hc
    rw [Option.mem_def.1 hc] at hrest
    simpa using hrest
  have hrun : ((List.replicate (k + 3) quote ++ rest).takeWhile (· == quote)).length = k + 3 := by
    rw [Text.takeWhile_run (by simp) hend, List.length_replicate]
  rw [hshape]
  simp only [closing?, hrun]
  rw [if_neg (by omega), if_pos (by omega), List.drop_left' (by simp)]
  rfl

/-- Fewer than three quotes end nothing. -/
theorem closing?_inside {w : List Char} {c : Char} (hc : c ∈ w) (hne : c ≠ quote)
    (hrun : (w.takeWhile (· == quote)).length ≤ 2) (tail : List Char) :
    closing? quote (w ++ tail) = none := by
  have hlt : (w.takeWhile (· == quote)).length ≠ w.length := by
    intro hlen
    have hall : w.takeWhile (· == quote) = w := (List.takeWhile_prefix _).eq_of_length hlen
    rw [← hall] at hc
    exact hne (by simpa using List.mem_takeWhile_imp hc)
  simp only [closing?]
  rw [List.takeWhile_append, if_neg hlt, if_pos (by omega)]

/-- Quotes right before the end of a long string belong to it. -/
theorem readLong?_quotes (escapes : Bool) {k : Nat} (hk : k ≤ 2) {rest : List Char}
    (hrest : rest.head? ≠ some quote) (fuel : Nat) (out : List Char) :
    readLong? quote escapes (fuel + 1) out
        (List.replicate k quote ++ quote :: quote :: quote :: rest)
      = some (String.ofList (out.reverse ++ List.replicate k quote), rest) := by
  have hclose := closing?_end hk hrest
  obtain ⟨cs, hcs⟩ : ∃ cs, List.replicate k quote ++ quote :: quote :: quote :: rest
      = quote :: cs := by
    cases k with
    | zero => exact ⟨_, rfl⟩
    | succ k => exact ⟨_, rfl⟩
  rw [hcs] at hclose ⊢
  simp only [readLong?, if_true, hclose, List.reverse_append, List.reverse_replicate]

/-- A long string is read to its end, with the text it spells. -/
theorem readLong?_spelled {rest : List Char} (hrest : rest.head? ≠ some quote)
    {w : List Char} (h : Spelled quote escapes w cs) : ∀ (fuel : Nat) (out : List Char),
    cs.length < fuel →
    readLong? quote escapes fuel out (w ++ quote :: quote :: quote :: rest)
      = some (String.ofList (out.reverse ++ cs), rest) := by
  induction h with
  | nil =>
      intro fuel out hfuel
      obtain ⟨fuel, rfl⟩ : ∃ k, fuel = k + 1 := ⟨fuel - 1, by simp at hfuel; omega⟩
      exact readLong?_quotes escapes (Nat.zero_le 2) hrest fuel out
  | @quote w cs hrun hw ih =>
      intro fuel out hfuel
      obtain ⟨fuel, rfl⟩ : ∃ k, fuel = k + 1 := ⟨fuel - 1, by simp at hfuel; omega⟩
      have hnext := ih fuel (quote :: out) (by simpa using hfuel)
      rw [List.reverse_cons, List.append_assoc, List.singleton_append] at hnext
      rw [List.cons_append]
      by_cases hall : ∀ c ∈ w, c = quote
      · -- the quotes reach the delimiter, so the reader takes them along with it
        have hcs : cs = w := hw.eq_of_all hall
        have hw : quote :: w = List.replicate (w.length + 1) quote := by
          rw [List.replicate_succ, ← List.eq_replicate_iff.2 ⟨rfl, hall⟩]
        have hlength : w.length ≤ 1 := by
          rwa [List.takeWhile_eq_self_iff.2 (by simpa using hall)] at hrun
        have hread := readLong?_quotes escapes (show w.length + 1 ≤ 2 by omega) hrest fuel out
        rw [← hw] at hread
        rw [hcs]
        exact hread
      · -- something else stands between the quotes and the delimiter
        have hinside : closing? quote (quote :: (w ++ quote :: quote :: quote :: rest)) = none := by
          obtain ⟨c, hc, hne⟩ : ∃ c ∈ w, c ≠ quote := by simpa using hall
          exact closing?_inside (List.mem_cons_of_mem _ hc) hne (by simpa using hrun) _
        simp only [readLong?, if_true, hinside]
        exact hnext
  | @plain c w cs hplain hne hslash _ ih =>
      intro fuel out hfuel
      obtain ⟨fuel, rfl⟩ : ∃ k, fuel = k + 1 := ⟨fuel - 1, by simp at hfuel; omega⟩
      have hnext := ih fuel (c :: out) (by simpa using hfuel)
      rw [List.reverse_cons, List.append_assoc, List.singleton_append] at hnext
      have hreturn : c ≠ '\r' := by rintro rfl; revert hplain; decide
      have hescape : ¬(c = '\\' ∧ escapes) := fun h => hslash h.2 h.1
      simp only [List.cons_append, readLong?, hne, hreturn, if_false, Bool.and_eq_true,
        decide_eq_true_eq, hescape, Bool.or_eq_true, hplain, if_true]
      exact hnext
  | @escape c e w cs hescapes hne he _ ih =>
      intro fuel out hfuel
      obtain ⟨fuel, rfl⟩ : ∃ k, fuel = k + 1 := ⟨fuel - 1, by simp at hfuel; omega⟩
      have hnext := ih fuel (c :: out) (by simpa using hfuel)
      rw [List.reverse_cons, List.append_assoc, List.singleton_append] at hnext
      simp only [List.cons_append, List.append_assoc, readLong?, hne.symm, if_false, hescapes,
        decide_true, Bool.and_self, if_true, he]
      exact hescapes ▸ hnext

/-- A text without line breaks is not spelled with one in front. -/
theorem Spelled.dropNewline_eq {w : List Char} (h : Spelled quote escapes w cs)
    (hquote : isPlain quote) (hcs : '\n' ∉ cs) (tail : List Char) :
    dropNewline (w ++ quote :: tail) = w ++ quote :: tail := by
  have hkept : ∀ (c : Char) (l : List Char), c ≠ '\n' → c ≠ '\r' →
      dropNewline (c :: l) = c :: l := by
    intro c l hline hreturn
    unfold dropNewline
    split <;> simp_all
  have hplain : ∀ c : Char, isPlain c → ∀ l, dropNewline (c :: l) = c :: l := by
    intro c hc l
    refine hkept c l ?_ ?_ <;> (rintro rfl; revert hc; decide)
  cases h with
  | nil => exact hplain quote hquote _
  | quote => exact hplain quote hquote _
  | @plain c _ _ hc =>
      exact hplain c (hc.resolve_right fun hline => hcs (hline ▸ List.mem_cons_self ..)) _
  | escape => exact hkept '\\' _ (by decide) (by decide)

/-! ### What the writers spell -/

/-- After `n` quotes in a row the writer leaves no more than fit. -/
theorem length_takeWhile_writeEscaped (cs : List Char) : ∀ n,
    ((writeEscaped true n cs).takeWhile (· == '"')).length ≤ 2 - n := by
  induction cs with
  | nil => intro n; simp [writeEscaped]
  | cons c cs ih =>
      intro n
      by_cases hquote : c = '"'
      · by_cases hn : n < 2
        · have hnext := ih (n + 1)
          simp [writeEscaped, hquote, hn]
          omega
        · simp [writeEscaped, hquote, hn]
      · obtain ⟨hc, -, -⟩ | ⟨e, hc, -⟩ := escapeChar_cases true c <;>
          simp [writeEscaped, hquote, hc]

theorem spelled_writeEscaped (cs : List Char) : ∀ n,
    Spelled '"' true (writeEscaped true n cs) cs := by
  induction cs with
  | nil => intro n; exact .nil
  | cons c cs ih =>
      intro n
      by_cases hquote : c = '"'
      · subst hquote
        by_cases hn : n < 2
        · have hrun := length_takeWhile_writeEscaped cs (n + 1)
          simp only [writeEscaped, if_true, hn]
          exact .quote (by omega) (ih (n + 1))
        · simp only [writeEscaped, if_true, hn, if_false]
          exact .escape (e := ['"']) rfl (by decide) (fun rest => rfl) (ih 0)
      · simp only [writeEscaped, hquote, if_false]
        obtain ⟨hc, hplain, hslash⟩ | ⟨e, hc, he⟩ := escapeChar_cases true c <;> rw [hc]
        · exact .plain (by simpa using hplain) hquote (fun _ => hslash) (ih 0)
        · exact .escape rfl (by decide) he (ih 0)

theorem le_longestRun (c : Char) (cs : List Char) : ∀ {run best : Nat}, run ≤ best →
    best ≤ longestRun c run best cs
      ∧ run + (cs.takeWhile (· == c)).length ≤ longestRun c run best cs := by
  induction cs with
  | nil => intro run best h; simpa [longestRun] using h
  | cons d cs ih =>
      intro run best h
      by_cases hd : d = c
      · have hnext := ih (le_max_right best (run + 1))
        simp [longestRun, hd]
        omega
      · have hnext := ih (Nat.zero_le best)
        simp [longestRun, hd]
        omega

theorem longestRun_mono (c : Char) (cs : List Char) : ∀ {run run' best best' : Nat},
    run ≤ run' → best ≤ best' → longestRun c run best cs ≤ longestRun c run' best' cs := by
  induction cs with
  | nil => intro run run' best best' _ hbest; exact hbest
  | cons d cs ih =>
      intro run run' best best' hrun hbest
      simp only [longestRun]
      split
      · exact ih (by omega) (by omega)
      · exact ih le_rfl hbest

/-- A text with few single quotes in a row spells itself. -/
theorem spelled_self : ∀ {cs : List Char}, longestRun '\'' 0 0 cs ≤ 2 →
    (∀ c ∈ cs, isPlain c ∨ c = '\n') → Spelled '\'' false cs cs := by
  intro cs
  induction cs with
  | nil => intro _ _; exact .nil
  | cons c cs ih =>
      intro hrun hcs
      have hplain : ∀ d ∈ cs, isPlain d ∨ d = '\n' := fun d hd => hcs d (List.mem_cons_of_mem c hd)
      by_cases hquote : c = '\''
      · simp only [longestRun, hquote, if_true] at hrun
        have htail := longestRun_mono '\'' cs (Nat.zero_le (0 + 1)) (Nat.zero_le (max 0 (0 + 1)))
        have hlead := (le_longestRun '\'' cs (le_max_right 0 (0 + 1))).2
        rw [hquote]
        exact .quote (by omega) (ih (by omega) hplain)
      · simp only [longestRun, hquote, if_false] at hrun
        exact .plain (hcs c (List.mem_cons_self ..)) hquote nofun (ih hrun hplain)

/-! ### Each choice is read back -/

theorem not_mem_of_longestRun {c : Char} : ∀ {cs : List Char},
    longestRun c 0 0 cs = 0 → c ∉ cs := by
  intro cs
  induction cs with
  | nil => intro _; exact List.not_mem_nil
  | cons d cs ih =>
      intro hrun
      by_cases hd : d = c
      · have hlead := (le_longestRun c cs (le_max_right 0 (0 + 1))).1
        simp only [longestRun, hd, if_true] at hrun
        omega
      · simp only [longestRun, hd, if_false] at hrun
        simpa [Ne.symm hd] using ih hrun

namespace Quoting

theorem choose_literal (h : choose cs = .literal) : ∀ c ∈ cs, isPlain c ∧ c ≠ '\'' := by
  have hparts : cs.any needsEscape = false ∧ longestRun '\'' 0 0 cs = 0 ∧ '\n' ∉ cs := by
    simp only [choose] at h
    split at h
    · cases h
    split at h
    · rename_i hcond
      simpa [and_assoc] using hcond
    repeat' split at h
    all_goals cases h
  obtain ⟨hescape, hsingles, hlines⟩ := hparts
  intro c hc
  have hplain := isPlain_of_not_needsEscape (by simpa using List.any_eq_false.1 hescape c hc)
  refine ⟨hplain.resolve_right ?_, ?_⟩
  · rintro rfl; exact hlines hc
  · rintro rfl; exact not_mem_of_longestRun hsingles hc

theorem choose_longLiteral (h : choose cs = .longLiteral) :
    longestRun '\'' 0 0 cs ≤ 2 ∧ ∀ c ∈ cs, isPlain c ∨ c = '\n' := by
  have hparts : cs.any needsEscape = false ∧ longestRun '\'' 0 0 cs ≤ 2 := by
    simp only [choose] at h
    split at h
    · cases h
    split at h
    · cases h
    split at h
    · cases h
    split at h
    · rename_i hcond
      simpa using hcond
    · split at h <;> cases h
  obtain ⟨hescape, hsingles⟩ := hparts
  exact ⟨hsingles, fun c hc =>
    isPlain_of_not_needsEscape (by simpa using List.any_eq_false.1 hescape c hc)⟩

end Quoting

/-- What follows the opening quotes of a long string is read back, with or
without a line break in front. -/
theorem readLong?_dropNewline {w : List Char} (h : Spelled quote escapes w cs)
    (hquote : isPlain quote) {rest : List Char} (hrest : rest.head? ≠ some quote)
    {body : List Char} (hbody : body = (if cs.contains '\n' then ['\n'] else [])
      ++ w ++ [quote, quote, quote] ++ rest) :
    readLong? quote escapes (body.length + 1) [] (dropNewline body)
      = some (String.ofList cs, rest) := by
  have hlength := h.length_le
  have hread := readLong?_spelled hrest h (body.length + 1) [] (by simp [hbody]; omega)
  rw [List.reverse_nil, List.nil_append] at hread
  have hdrop : dropNewline body = w ++ quote :: quote :: quote :: rest := by
    by_cases hlines : '\n' ∈ cs
    · rw [hbody, if_pos (by simpa using hlines)]
      simp [dropNewline]
    · rw [hbody, if_neg (by simpa using hlines), List.nil_append, List.append_assoc]
      exact h.dropNewline_eq hquote hlines _
  rw [hdrop]
  exact hread

/-- What is inside a short string does not start with its quote, so the
opening quote is not taken for a longer one. -/
theorem readText?_short {w : List Char} (rest : List Char) :
    (w.head? ≠ some '"' → readText? ('"' :: (w ++ '"' :: '\n' :: rest))
      = readBasic? ((w ++ '"' :: '\n' :: rest).length + 1) [] (w ++ '"' :: '\n' :: rest))
    ∧ (w.head? ≠ some '\'' → readText? ('\'' :: (w ++ '\'' :: '\n' :: rest))
      = readLiteral? [] (w ++ '\'' :: '\n' :: rest)) := by
  cases w with
  | nil => exact ⟨fun _ => rfl, fun _ => rfl⟩
  | cons c w =>
      constructor <;>
      · intro hw
        have hc := Option.some_inj.not.1 hw
        unfold readText?
        split <;> simp_all

theorem head?_writeEscaped_short (cs : List Char) :
    (writeEscaped false 0 cs).head? ≠ some '"' := by
  cases cs with
  | nil => exact nofun
  | cons c cs =>
      by_cases hquote : c = '"'
      · simp [writeEscaped, hquote]
      · obtain ⟨hc, -, -⟩ | ⟨e, hc, -⟩ := escapeChar_cases false c <;>
          simp [writeEscaped, hquote, hc]

theorem length_le_writeEscaped (cs : List Char) : cs.length ≤ (writeEscaped false 0 cs).length := by
  induction cs with
  | nil => exact Nat.zero_le _
  | cons c cs ih =>
      by_cases hquote : c = '"'
      · simp [writeEscaped, hquote]; omega
      · obtain ⟨hc, -, -⟩ | ⟨e, hc, -⟩ := escapeChar_cases false c <;>
          simp [writeEscaped, hquote, hc] <;> omega

theorem exists_quote_cons (s : String) :
    ∃ l, writeText s = '"' :: l ∨ writeText s = '\'' :: l := by
  simp only [writeText]
  cases Quoting.choose s.toList with
  | basic | longBasic => exact ⟨_, .inl rfl⟩
  | literal | longLiteral => exact ⟨_, .inr rfl⟩

/-- **A text is read back from its string**, up to the end of its line. -/
theorem readText?_writeText (s : String) (rest : List Char) :
    readText? (writeText s ++ '\n' :: rest) = some (s, '\n' :: rest) := by
  -- the quoting depends on the characters only
  have hs : String.ofList s.toList = s := String.ofList_toList
  generalize hcs : s.toList = cs at hs
  subst hs
  simp only [writeText, String.toList_ofList]
  cases hchoice : Quoting.choose cs with
  | basic =>
      have hread := readBasic?_writeEscaped ('\n' :: rest) cs
        ((writeEscaped false 0 cs ++ '"' :: '\n' :: rest).length + 1) []
        (by have := length_le_writeEscaped cs; simp; omega)
      simpa [Quoting.delimiter, Quoting.isLong, Quoting.hasEscapes] using
        ((readText?_short rest).1 (head?_writeEscaped_short cs)).trans hread
  | literal =>
      have hplain := Quoting.choose_literal hchoice
      have hhead : cs.head? ≠ some '\'' := fun h => (hplain _ (List.mem_of_mem_head? h)).2 rfl
      have hread := readLiteral?_append ('\n' :: rest) cs [] hplain
      simpa [Quoting.delimiter, Quoting.isLong, Quoting.hasEscapes] using
        ((readText?_short rest).2 hhead).trans hread
  | longBasic =>
      have hhead : ('\n' :: rest).head? ≠ some '"' := by simp
      have hread := readLong?_dropNewline (spelled_writeEscaped cs 0) (by decide) hhead rfl
      simpa [Quoting.delimiter, Quoting.isLong, Quoting.hasEscapes, readText?] using hread
  | longLiteral =>
      obtain ⟨hrun, hplain⟩ := Quoting.choose_longLiteral hchoice
      have hhead : ('\n' :: rest).head? ≠ some '\'' := by simp
      have hread := readLong?_dropNewline (spelled_self hrun hplain) (by decide) hhead rfl
      simpa [Quoting.delimiter, Quoting.isLong, Quoting.hasEscapes, readText?] using hread

end VmAssessment.Toml
