/-
VmAssessment/Proofs/Url/Paths.lean

What a slash at the end of a path does to its segments.  A path that does not
end in a slash gets an empty last segment from it (`pushSegments_slash`), and
a relative reference then comes after the path and not in place of its last
segment.  Dots are the exception: they leave an empty last segment behind on
their own, and the slash adds nothing.
-/
import VmAssessment.Proofs.Text.Utf8
import VmAssessment.Url.Parser

namespace VmAssessment.Url

/-! ### Encoding -/

theorem upperHexDigit_ne_slash : ∀ n < 16, upperHexDigit n ≠ '/' := by decide

/-- An encoded text has no slashes but its own. -/
theorem slash_not_mem_encode {inSet : Char → Bool} {cs : List Char} (h : '/' ∉ cs) :
    '/' ∉ encode inSet cs := by
  have hbyte : ∀ b : UInt8, '/' ∉ encodeByte b := by
    intro b hb
    have hlt := b.toNat_lt
    have hhigh := upperHexDigit_ne_slash (b.toNat / 16) (by omega)
    have hlow := upperHexDigit_ne_slash (b.toNat % 16) (by omega)
    simp [encodeByte, hhigh.symm, hlow.symm] at hb
  intro hmem
  obtain ⟨c, hc, hin⟩ := List.mem_flatMap.1 hmem
  split at hin
  · obtain ⟨b, -, hb⟩ := List.mem_flatMap.1 hin
    exact hbyte b hb
  · rw [List.mem_singleton] at hin
    exact h (hin ▸ hc)

/-- Only nothing is encoded as nothing. -/
theorem encode_ne_nil {inSet : Char → Bool} {cs : List Char} (h : cs ≠ []) :
    encode inSet cs ≠ [] := by
  obtain ⟨c, rest, rfl⟩ := List.exists_cons_of_ne_nil h
  rw [encode, List.flatMap_cons]
  refine List.append_ne_nil_of_left_ne_nil ?_ _
  split
  · obtain ⟨b, bytes, hbytes⟩ := List.exists_cons_of_ne_nil (String.utf8EncodeChar_ne_nil (c := c))
    rw [Text.toList_toUTF8, String.toList_singleton, List.flatMap_singleton, hbytes]
    exact List.cons_ne_nil _ _
  · exact List.cons_ne_nil c []

/-! ### Segments -/

variable {special : Bool} {segments : List (List Char)} {segment cs : List Char}

/-- A segment is added at the end, except for dots, which leave an empty one
there if they come last. -/
theorem pushSegment_cases (segments : List (List Char)) (segment : List Char) :
    (∃ up, up <+: segments ∧ pushSegment false true segments segment = up ++ [[]]
        ∧ pushSegment false false segments segment = up)
      ∨ ∀ last, pushSegment false last segments segment
          = segments ++ [encode inPathSet segment] := by
  unfold pushSegment
  split
  · -- two dots
    refine .inl ⟨_, ?_, rfl, rfl⟩
    unfold shorten
    split
    · exact List.nil_prefix
    · exact List.dropLast_prefix _
  · -- one dot
    exact .inl ⟨_, List.prefix_rfl, rfl, rfl⟩
  · exact .inr fun last => by simp

theorem pushSegment_nil (file last : Bool) (segments : List (List Char)) :
    pushSegment file last segments [] = segments ++ [[]] := by
  cases file <;> simp [pushSegment, plainDots, encode, isDrive]

/-- An empty last segment, added unless there is one. -/
def opened (segments : List (List Char)) : List (List Char) :=
  if segments.getLast? = some [] then segments else segments ++ [[]]

theorem opened_eq_self (h : segments.getLast? = some []) : opened segments = segments := if_pos h

/-- A slash after a segment opens another one. -/
theorem pushSegment_slash (segments : List (List Char)) (h : segment ≠ []) :
    pushSegment false false segments segment ++ [[]]
      = opened (pushSegment false true segments segment) := by
  obtain ⟨up, -, hlast, hmore⟩ | hadd := pushSegment_cases segments segment
  · simp [opened, hlast, hmore]
  · have hne : encode inPathSet segment ≠ [] := encode_ne_nil h
    simp [opened, hadd, hne]

/-- **A slash after a path opens another segment**, unless the path leaves an
empty one on its own. -/
theorem pushSegments_slash : ∀ {cs : List Char} {segments : List (List Char)} {segment : List Char},
    (∀ c ∈ cs.getLast?, isSlash special c = false) → (cs = [] → segment ≠ []) →
    pushSegments false special segments segment (cs ++ ['/'])
      = opened (pushSegments false special segments segment cs) := by
  intro cs
  induction cs with
  | nil =>
      intro segments segment _ hsegment
      have hslash : isSlash special '/' = true := by simp [isSlash]
      simp only [List.nil_append, pushSegments, hslash, if_true, List.reverse_nil, pushSegment_nil]
      exact pushSegment_slash segments (by simpa using hsegment rfl)
  | cons c cs ih =>
      intro segments segment hlast _
      have hrest : ∀ d ∈ cs.getLast?, isSlash special d = false := by
        intro d hd
        refine hlast d ?_
        rw [List.getLast?_cons, Option.mem_def.1 hd]
        rfl
      by_cases hc : isSlash special c
      · -- the segment is closed and the next one empty, but the path goes on
        have hne : cs ≠ [] := by
          rintro rfl
          rw [hlast c rfl] at hc
          cases hc
        simp only [List.cons_append, pushSegments, hc, if_true]
        exact ih hrest fun hnil => absurd hnil hne
      · simp only [List.cons_append, pushSegments, hc]
        exact ih hrest fun _ => List.cons_ne_nil c segment

/-- A path that ends in a slash has an empty last segment. -/
theorem getLast?_pushSegments_slash {c : Char} (hc : isSlash special c) :
    ∀ {cs : List Char} {segments : List (List Char)} {segment : List Char},
    (pushSegments false special segments segment (cs ++ [c])).getLast? = some [] := by
  intro cs
  induction cs with
  | nil =>
      intro segments segment
      simp [pushSegments, hc, pushSegment_nil]
  | cons d cs ih =>
      intro segments segment
      by_cases hd : isSlash special d
      · simpa only [List.cons_append, pushSegments, hd, if_true] using ih
      · simpa only [List.cons_append, pushSegments, hd, Bool.false_eq_true, if_false] using ih

/-- A text that ends in a slash. -/
def withSlash (cs : List Char) : List Char := if cs.getLast? = some '/' then cs else cs ++ ['/']

/-- A path opens another segment with the slash that it does not end in yet. -/
theorem pushSegments_withSlash (hne : cs ≠ []) (hlast : cs.getLast? ≠ some '\\') :
    pushSegments false true [] [] (withSlash cs)
      = opened (pushSegments false true [] [] cs) := by
  obtain ⟨front, last, rfl⟩ : ∃ front last, cs = front ++ [last] :=
    ⟨_, _, (List.dropLast_concat_getLast hne).symm⟩
  rw [List.getLast?_concat, Ne, Option.some_inj] at hlast
  by_cases hslash : last = '/'
  · rw [withSlash, if_pos (by simp [hslash]), opened_eq_self]
    exact getLast?_pushSegments_slash (by simp [isSlash, hslash])
  · have hend : ∀ c ∈ (front ++ [last]).getLast?, isSlash true c = false := by
      intro c hc
      obtain rfl : last = c := by simpa using hc
      simp [isSlash, hslash, hlast]
    rw [withSlash, if_neg (by simpa using hslash)]
    exact pushSegments_slash hend fun hnil => absurd hnil hne

theorem pushSegment_last_ne_nil (segments : List (List Char)) (segment : List Char) :
    pushSegment false true segments segment ≠ [] := by
  obtain ⟨up, -, hlast, -⟩ | hadd := pushSegment_cases segments segment
  · simp [hlast]
  · simp [hadd]

/-- There is always a last segment. -/
theorem pushSegments_ne_nil : ∀ {cs : List Char} {segments : List (List Char)}
    {segment : List Char}, pushSegments false special segments segment cs ≠ [] := by
  intro cs
  induction cs with
  | nil => intro segments segment; exact pushSegment_last_ne_nil segments _
  | cons c cs ih =>
      intro segments segment
      rw [pushSegments]
      split <;> exact ih

/-! ### Slashes within segments -/

theorem slash_not_mem_pushSegment (last : Bool) (hsegments : ∀ s ∈ segments, '/' ∉ s)
    (hsegment : '/' ∉ segment) :
    ∀ s ∈ pushSegment false last segments segment, '/' ∉ s := by
  intro s hs
  obtain ⟨up, hup, hlast, hmore⟩ | hadd := pushSegment_cases segments segment
  · cases last with
    | true =>
        rw [hlast, List.mem_append, List.mem_singleton] at hs
        obtain hs | rfl := hs
        · exact hsegments s (hup.subset hs)
        · exact List.not_mem_nil
    | false => exact hsegments s (hup.subset (hmore ▸ hs))
  · rw [hadd, List.mem_append, List.mem_singleton] at hs
    obtain hs | rfl := hs
    · exact hsegments s hs
    · exact slash_not_mem_encode hsegment

/-- Segments have no slashes inside. -/
theorem slash_not_mem_pushSegments : ∀ {cs : List Char} {segments : List (List Char)}
    {segment : List Char}, (∀ s ∈ segments, '/' ∉ s) → '/' ∉ segment →
    ∀ s ∈ pushSegments false special segments segment cs, '/' ∉ s := by
  intro cs
  induction cs with
  | nil =>
      intro segments segment hsegments hsegment
      exact slash_not_mem_pushSegment true hsegments (by simpa using hsegment)
  | cons c cs ih =>
      intro segments segment hsegments hsegment
      rw [pushSegments]
      split
      · exact ih (slash_not_mem_pushSegment false hsegments (by simpa using hsegment))
          List.not_mem_nil
      · rename_i hc
        have hne : '/' ≠ c := by
          rintro rfl
          exact hc (by simp [isSlash])
        exact ih hsegments (by simp [hne, hsegment])

/-! ### Paths as they are written -/

/-- A path without the slash it may end in. -/
def withoutSlash (path : List Char) : List Char :=
  if path.getLast? = some '/' then path.dropLast else path

theorem withoutSlash_concat (path : List Char) : withoutSlash (path ++ ['/']) = path := by
  rw [withoutSlash, if_pos (by simp), List.dropLast_concat]

theorem chars_concat (segments : List (List Char)) (segment : List Char) :
    (Path.segments (segments ++ [segment])).chars
      = (Path.segments segments).chars ++ '/' :: segment := by
  simp [Path.chars]

/-- A path with a last segment does not end in a slash. -/
theorem withoutSlash_chars_concat (segments : List (List Char)) (hne : segment ≠ [])
    (hslash : '/' ∉ segment) :
    withoutSlash (Path.segments (segments ++ [segment])).chars
      = (Path.segments (segments ++ [segment])).chars := by
  refine if_neg fun hlast => hslash ?_
  obtain ⟨before, last, rfl⟩ : ∃ before last, segment = before ++ [last] :=
    ⟨_, _, (List.dropLast_concat_getLast hne).symm⟩
  rw [chars_concat, ← List.cons_append, ← List.append_assoc, List.getLast?_concat,
    Option.some_inj] at hlast
  simp [hlast]

/-- A path ends in a slash if its last segment is empty, and only then. -/
theorem getLast?_chars_iff (hne : segments ≠ []) (hslash : ∀ s ∈ segments, '/' ∉ s) :
    (Path.segments segments).chars.getLast? = some '/' ↔ segments.getLast? = some [] := by
  obtain ⟨before, last, rfl⟩ : ∃ before last, segments = before ++ [last] :=
    ⟨_, _, (List.dropLast_concat_getLast hne).symm⟩
  rw [List.getLast?_concat, Option.some_inj]
  constructor
  · intro h
    refine Decidable.byContradiction fun hlast => ?_
    have hkept := withoutSlash_chars_concat before hlast (hslash last (by simp))
    have hlength := congrArg List.length hkept
    rw [withoutSlash, if_pos h, List.length_dropLast, chars_concat, List.length_append,
      List.length_cons] at hlength
    omega
  · rintro rfl
    rw [chars_concat, List.getLast?_concat]

/-- Without its last segment the opened path is the path without its slash. -/
theorem chars_dropLast_opened (hne : segments ≠ []) (hslash : ∀ s ∈ segments, '/' ∉ s) :
    (Path.segments (opened segments).dropLast).chars
      = withoutSlash (Path.segments segments).chars := by
  obtain ⟨before, last, rfl⟩ : ∃ before last, segments = before ++ [last] :=
    ⟨_, _, (List.dropLast_concat_getLast hne).symm⟩
  by_cases hlast : last = []
  · rw [opened_eq_self (by simp [hlast]), List.dropLast_concat, hlast, chars_concat,
      withoutSlash_concat]
  · rw [opened, if_neg (by simpa using hlast), List.dropLast_concat,
      withoutSlash_chars_concat before hlast (hslash last (by simp))]

/-- Without its last segment a path is the path without its slash if that
segment is empty, and only then. -/
theorem chars_dropLast_eq_iff (hne : segments ≠ []) (hslash : ∀ s ∈ segments, '/' ∉ s) :
    (Path.segments segments.dropLast).chars = withoutSlash (Path.segments segments).chars
      ↔ segments.getLast? = some [] := by
  obtain ⟨before, last, rfl⟩ : ∃ before last, segments = before ++ [last] :=
    ⟨_, _, (List.dropLast_concat_getLast hne).symm⟩
  rw [List.dropLast_concat, List.getLast?_concat, Option.some_inj]
  constructor
  · intro h
    refine Decidable.byContradiction fun hlast => ?_
    rw [withoutSlash_chars_concat before hlast (hslash last (by simp)), chars_concat] at h
    simp at h
  · rintro rfl
    rw [chars_concat, withoutSlash_concat]

end VmAssessment.Url
