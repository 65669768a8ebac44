/-
VmAssessment/Proofs/Toml/Values.lean

Numbers, truth values and lists of numbers are read back as they were
written.  A number is the run of its digits, which the reader must neither
take for a date nor for a number in another base; what follows it is the end
of its line, a comma or a bracket.
-/
import VmAssessment.Proofs.Toml.Strings
import VmAssessment.Toml.Reader

namespace VmAssessment.Toml

variable {cs : List Char}

/-! ### Digits -/

theorem hexValue?_of_isDigit {c : Char} (hc : c.isDigit) : hexValue? c = some (c.toNat - 48) := by
  have hbounds : '0' ≤ c ∧ c ≤ '9' := by
    simpa [Char.isDigit, Char.le_def] using hc
  simp [hexValue?, hbounds]

theorem digits?_of_isDigit : ∀ {cs : List Char}, cs ≠ [] → (∀ c ∈ cs, c.isDigit) →
    digits? 10 cs = some (cs.map fun c => c.toNat - 48) := by
  have hvalue : ∀ c : Char, c.isDigit → hexValue? c = some (c.toNat - 48) ∧ c.toNat - 48 < 10 := by
    intro c hc
    have hbounds := Char.isDigit_iff_toNat.1 hc
    exact ⟨hexValue?_of_isDigit hc, by change 48 ≤ _ ∧ _ ≤ 57 at hbounds; omega⟩
  intro cs
  induction cs with
  | nil => intro h; exact absurd rfl h
  | cons c cs ih =>
      intro _ hcs
      obtain ⟨hc, hlt⟩ := hvalue c (hcs c (List.mem_cons_self ..))
      cases cs with
      | nil => simp [digits?, hc, hlt]
      | cons d cs =>
          have hd : d ≠ '_' := by
            rintro rfl
            exact absurd (hcs '_' (by simp)) (by decide)
          have hrest := ih (List.cons_ne_nil d cs) fun e he => hcs e (List.mem_cons_of_mem c he)
          simp [digits?, hd, hc, hlt, hrest]

theorem ofDigits_map (cs : List Char) :
    ofDigits 10 (cs.map fun c => c.toNat - 48) = Nat.ofDigitChars 10 cs 0 := by
  rw [ofDigits, List.foldl_map, Nat.ofDigitChars_eq_foldl]
  congr 1
  funext n c
  rw [Nat.mul_comm]
  rfl

/-- Only zero is printed with a zero in front. -/
theorem head?_toDigits (n : Nat) : 0 < n → (Nat.toDigits 10 n).head? ≠ some '0' := by
  induction n using Nat.strongRecOn with
  | ind n ih =>
      intro hn
      by_cases hlt : n < 10
      · rw [Nat.toDigits_of_lt_base hlt]
        have hdigits : ∀ d < 10, 0 < d → [d.digitChar].head? ≠ some '0' := by decide
        exact hdigits n hlt hn
      · have hnext := ih (n / 10) (by omega) (by omega)
        rw [Nat.toDigits_of_base_le (by decide) (by omega), List.head?_append]
        cases hhead : (Nat.toDigits 10 (n / 10)).head? with
        | none => exact absurd (List.head?_eq_none_iff.1 hhead) Nat.toDigits_ne_nil
        | some c => rwa [hhead] at hnext

theorem isDigit_of_mem {n : Nat} {c : Char} (hc : c ∈ Nat.toDigits 10 n) : c.isDigit :=
  Nat.isDigit_of_mem_toDigits (by decide) (by decide) hc

theorem wholeDigits?_toDigits (n : Nat) :
    wholeDigits? (Nat.toDigits 10 n) = some ((Nat.toDigits 10 n).map fun c => c.toNat - 48) := by
  have hdigits := digits?_of_isDigit (Nat.toDigits_ne_nil (n := n)) fun c => isDigit_of_mem
  simp only [wholeDigits?, hdigits, Option.bind_eq_bind, Option.bind_some]
  obtain ⟨c, l, hl, hdigit, -⟩ := Text.exists_toDigits n
  cases l with
  | nil => simp [hl]
  | cons d l =>
      have hzero : 0 < n := by
        refine Nat.pos_of_ne_zero ?_
        rintro rfl
        cases hl
      have hc : c ≠ '0' := by
        have hne := head?_toDigits n hzero
        simpa [hl] using hne
      have hvalue : c.toNat - 48 ≠ 0 := by
        have hbounds := Text.toNat_of_isDigit hdigit
        have hne : c.toNat ≠ '0'.toNat := fun h => hc (Char.toNat_inj.1 h)
        change c.toNat ≠ 48 at hne
        omega
      rw [hl]
      simp only [List.map_cons]
      split <;> simp_all

theorem integer?_toDigits (n : Nat) : integer? (Nat.toDigits 10 n) = some (n : Int) := by
  have hdigit : ∀ c ∈ Nat.toDigits 10 n, c.isDigit := fun c => isDigit_of_mem
  -- no sign and no base in front, as each character is a digit
  have hsign : splitSign (Nat.toDigits 10 n) = (false, Nat.toDigits 10 n) := by
    unfold splitSign
    split
    · rename_i h; exact absurd (hdigit '-' (by simp [h])) (by decide)
    · rename_i h; exact absurd (hdigit '+' (by simp [h])) (by decide)
    · rfl
  unfold integer?
  split
  · rename_i h; exact absurd (hdigit 'x' (by simp [h])) (by decide)
  · rename_i h; exact absurd (hdigit 'o' (by simp [h])) (by decide)
  · rename_i h; exact absurd (hdigit 'b' (by simp [h])) (by decide)
  · simp [hsign, wholeDigits?_toDigits, ofDigits_map, Nat.ofDigitChars_ten_toDigits]

/-! ### Unquoted values -/

/-- A date has dashes. -/
theorem date?_eq_none (h : '-' ∉ cs) : date? cs = none := by
  have hfield : ∀ {width : Nat} {l rest : List Char} {n : Nat}, '-' ∉ l →
      field? width l = some (n, rest) → '-' ∉ rest := by
    intro width l rest n hl hfield
    simp only [field?] at hfield
    split at hfield
    · cases hfield
      exact fun hmem => hl (List.mem_of_mem_drop hmem)
    · cases hfield
  cases hyear : field? 4 cs with
  | none => simp [date?, hyear]
  | some p =>
      obtain ⟨year, rest⟩ := p
      have hrest := hfield h hyear
      simp only [date?, hyear, Option.bind_eq_bind, Option.bind_some]
      split
      · exact absurd (List.mem_cons_self ..) hrest
      · rfl

/-- A word without dashes is read up to the first character that belongs to
no word. -/
theorem readScalar?_append {word : List Char} (hword : ∀ c ∈ word, isScalarChar c)
    (hdash : '-' ∉ word) {c : Char} (hc : isScalarChar c = false) (rest : List Char) :
    readScalar? (word ++ c :: rest) = (scalar? word).map fun v => (v, c :: rest) := by
  have htake : (word ++ c :: rest).takeWhile isScalarChar = word :=
    Text.takeWhile_run hword (by simpa using hc)
  simp only [readScalar?, htake, date?_eq_none hdash, List.drop_left]

theorem readScalar?_writeBoolean (b : Bool) (rest : List Char) :
    readScalar? ((if b then "true" else "false").toList ++ '\n' :: rest)
      = some (.boolean b, '\n' :: rest) := by
  rw [readScalar?_append (List.all_eq_true.1 (by cases b <;> decide)) (by cases b <;> decide)
    (by decide)]
  cases b <;> rfl

/-- A number that can be kept is read up to the first character that belongs
to no word. -/
theorem readScalar?_toDigits {n : Nat} (hn : isKept n) {c : Char} (hc : isScalarChar c = false)
    (rest : List Char) :
    readScalar? (Nat.toDigits 10 n ++ c :: rest) = some (.integer n, c :: rest) := by
  have hdigit : ∀ c ∈ Nat.toDigits 10 n, c.isDigit := fun c => isDigit_of_mem
  have hword : ∀ d ∈ Nat.toDigits 10 n, isScalarChar d := by
    intro d hd
    simp [isScalarChar, Char.isAlphanum, hdigit d hd]
  have hdash : '-' ∉ Nat.toDigits 10 n := fun h => absurd (hdigit '-' h) (by decide)
  have htrue : Nat.toDigits 10 n ≠ "true".toList := fun h =>
    absurd (hdigit 't' (by rw [h]; decide)) (by decide)
  have hfalse : Nat.toDigits 10 n ≠ "false".toList := fun h =>
    absurd (hdigit 'f' (by rw [h]; decide)) (by decide)
  rw [readScalar?_append hword hdash hc]
  simp only [scalar?, beq_eq_false_iff_ne.2 htrue, beq_eq_false_iff_ne.2 hfalse,
    integer?_toDigits, hn, if_true, Bool.false_eq_true, if_false]
  rfl

/-! ### Values -/

theorem readValue?_writeText (s : String) (fuel depth : Nat) (rest : List Char) :
    readValue? (fuel + 1) depth (writeText s ++ '\n' :: rest)
      = some (.string s, '\n' :: rest) := by
  have hread := readText?_writeText s rest
  obtain ⟨l, hl | hl⟩ := exists_quote_cons s <;>
  · rw [hl, List.cons_append] at hread ⊢
    simp only [readValue?, hread]
    rfl

theorem readValue?_writeBoolean (b : Bool) (fuel depth : Nat) (rest : List Char) :
    readValue? (fuel + 1) depth ((if b then "true" else "false").toList ++ '\n' :: rest)
      = some (.boolean b, '\n' :: rest) := by
  rw [← readScalar?_writeBoolean b rest]
  cases b <;> rfl

theorem readValue?_toDigits {n : Nat} (hn : isKept n) {c : Char} (hc : isScalarChar c = false)
    (fuel depth : Nat) (rest : List Char) :
    readValue? (fuel + 1) depth (Nat.toDigits 10 n ++ c :: rest)
      = some (.integer n, c :: rest) := by
  have hread := readScalar?_toDigits hn hc rest
  obtain ⟨d, l, hl, hd, -⟩ := Text.exists_toDigits n
  rw [hl, List.cons_append] at hread ⊢
  unfold readValue?
  split
  all_goals first | exact hread | (exfalso; simp_all)

theorem skipSpace?_of_isDigit {c : Char} (hc : c.isDigit) (fuel : Nat) (rest : List Char) :
    skipSpace? fuel (c :: rest) = some (c :: rest) := by
  cases fuel with
  | zero => rfl
  | succ fuel =>
      unfold skipSpace?
      split
      all_goals simp_all

theorem skipSpace?_of_mark {c : Char} (hc : c = ',' ∨ c = ']') (fuel : Nat) (rest : List Char) :
    skipSpace? fuel (c :: rest) = some (c :: rest) := by
  obtain rfl | rfl := hc <;> cases fuel <;> rfl

/-- The number of a row stands after a line break and four blanks. -/
theorem skipSpace?_indent {c : Char} (hc : c.isDigit) (rest : List Char) :
    skipSpace? ('\n' :: "    ".toList ++ c :: rest).length ('\n' :: "    ".toList ++ c :: rest)
      = some (c :: rest) := by
  have hlength : ('\n' :: "    ".toList ++ c :: rest).length = rest.length + 1 + 5 := rfl
  rw [hlength]
  exact skipSpace?_of_isDigit hc (rest.length + 1) rest

/-- A bracket opens a list, which goes to where its items end. -/
theorem readValue?_bracket {fuel depth : Nat} (hdepth : depth ≠ 0) {items : List Toml}
    {inside rest : List Char} (hread : readItems? fuel (depth - 1) inside = some (items, rest)) :
    readValue? (fuel + 1) depth ('[' :: inside) = some (.array items, rest) := by
  rw [readValue?]
  simp [hdepth, hread]

/-- A row with a number and a comma is read before the rows after it. -/
theorem readItems?_row {n : Nat} (hn : isKept n) {fuel depth : Nat} {after rest : List Char}
    {items : List Toml}
    (hnext : readItems? (fuel + 1) depth ('\n' :: after) = some (items, rest)) :
    readItems? (fuel + 1 + 1) depth
        ('\n' :: "    ".toList ++ (Nat.toDigits 10 n ++ ',' :: '\n' :: after))
      = some (.integer n :: items, rest) := by
  have hvalue := readValue?_toDigits hn (show isScalarChar ',' = false by decide) fuel depth
    ('\n' :: after)
  obtain ⟨d, digits, hdigits, hd, -⟩ := Text.exists_toDigits n
  have hskip := skipSpace?_indent hd (digits ++ ',' :: '\n' :: after)
  rw [hdigits] at hvalue ⊢
  simp only [List.cons_append] at hvalue hskip ⊢
  rw [readItems?.eq_def]
  simp only [hskip, Option.bind_eq_bind, Option.bind_some]
  -- the number starts with a digit, so the list does not end here
  split
  · rename_i hclose
    cases hclose
    exact absurd hd (by decide)
  · rw [hvalue]
    simp only [Option.bind_some, skipSpace?_of_mark (.inl rfl), hnext]
    rfl

/-- Rows of numbers, one a line, are read up to the closing bracket. -/
theorem readItems?_rows (depth : Nat) (rest : List Char) : ∀ {l : List Nat} {fuel : Nat},
    (∀ n ∈ l, isKept n) → l.length < fuel →
    readItems? fuel depth ('\n' ::
        (l.flatMap fun n => "    ".toList ++ Nat.toDigits 10 n ++ ",\n".toList) ++ ']' :: rest)
      = some (l.map fun n => .integer n, rest) := by
  intro l
  induction l with
  | nil =>
      intro fuel _ hfuel
      obtain ⟨fuel, rfl⟩ : ∃ k, fuel = k + 1 := ⟨fuel - 1, by simp at hfuel; omega⟩
      rw [List.flatMap_nil, readItems?.eq_def]
      rfl
  | cons n l ih =>
      intro fuel hl hfuel
      obtain ⟨fuel, rfl⟩ : ∃ k, fuel = k + 1 + 1 := ⟨fuel - 2, by simp at hfuel; omega⟩
      have henough : l.length < fuel + 1 := Nat.lt_of_succ_lt_succ hfuel
      have hnext := ih (fun m hm => hl m (List.mem_cons_of_mem n hm)) henough
      have hrow := readItems?_row (hl n (List.mem_cons_self ..)) hnext
      rw [List.flatMap_cons, List.map_cons, ← hrow]
      simp

/-- A number alone stands between its brackets. -/
theorem readItems?_single {n : Nat} (hn : isKept n) (fuel depth : Nat) (rest : List Char) :
    readItems? (fuel + 2) depth (Nat.toDigits 10 n ++ ']' :: rest)
      = some ([.integer n], rest) := by
  have hvalue := readValue?_toDigits hn (show isScalarChar ']' = false by decide) fuel depth rest
  obtain ⟨d, digits, hdigits, hd, -⟩ := Text.exists_toDigits n
  rw [hdigits, List.cons_append] at hvalue ⊢
  rw [readItems?.eq_def]
  simp only [skipSpace?_of_isDigit hd, Option.bind_eq_bind, Option.bind_some]
  split
  · rename_i hclose
    cases hclose
    exact absurd hd (by decide)
  · rw [hvalue]
    simp only [Option.bind_some, skipSpace?_of_mark (.inr rfl)]
    rfl

end VmAssessment.Toml
