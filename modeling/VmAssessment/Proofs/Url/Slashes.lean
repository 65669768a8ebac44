/-
VmAssessment/Proofs/Url/Slashes.lean

What a slash after the text of a URL changes (`slashed_parse`).

After an authority comes the path, so the slash goes into the path if nothing
follows it, and opens another segment there; otherwise it goes into the query
or the fragment and leaves the path alone.  The text is followed from its end
to its start: the path first, then the path with the slash before it, the
authority, and the scheme.
-/
import VmAssessment.Proofs.Url.Parsing

namespace VmAssessment.Url

variable {url u : Url} {cs : List Char}

/-! ### A slash at the end -/

theorem withSlash_append {before after : List Char}
    (h : after = [] → before.getLast? ≠ some '/') :
    withSlash (before ++ after) = before ++ withSlash after := by
  by_cases hafter : after = []
  · rw [hafter, List.append_nil, withSlash, if_neg (h hafter)]
    rfl
  · obtain ⟨front, last, rfl⟩ : ∃ front last, after = front ++ [last] :=
      ⟨_, _, (List.dropLast_concat_getLast hafter).symm⟩
    simp only [withSlash, ← List.append_assoc, List.getLast?_concat]
    split <;> simp

theorem head?_withSlash (h : cs ≠ []) : (withSlash cs).head? = cs.head? := by
  obtain ⟨c, rest, rfl⟩ := List.exists_cons_of_ne_nil h
  unfold withSlash
  split <;> rfl

theorem mem_withSlash {c : Char} (hc : c ∈ withSlash cs) : c ∈ cs ∨ c = '/' := by
  unfold withSlash at hc
  split at hc
  · exact .inl hc
  · simpa using hc

/-- What ends a text does not end in what the text does not end in. -/
theorem getLast?_ne_of_append {before after : List Char} {c : Char}
    (h : (before ++ after).getLast? ≠ some c) : after.getLast? ≠ some c := by
  intro hafter
  refine h ?_
  rw [List.getLast?_append, hafter]
  rfl

/-- A URL and what a slash at the end of its text makes of it: another segment
if its text ends in its path, and the same path otherwise. -/
structure Slashed (u v : Url) : Prop where
  scheme : v.scheme = u.scheme
  path : ∃ segments, u.path = .segments segments ∧ segments ≠ [] ∧ (∀ s ∈ segments, '/' ∉ s)
    ∧ v.path = .segments
      (if u.query = none ∧ u.fragment = none then opened segments else segments)

/-- URLs whose text starts with an authority, and to which nothing is yet
added after it. -/
structure IsHostOnly (url : Url) : Prop where
  scheme : NeedsHost url.scheme
  query : url.query = none
  fragment : url.fragment = none

namespace IsHostOnly

/-- The path of a URL takes up the slash, unless something follows it. -/
theorem slashed_withPath (h : url.IsHostOnly) {cs : List Char} (hne : cs ≠ [])
    (hlast : cs.getLast? ≠ some '\\') :
    Slashed (url.withPath [] cs) (url.withPath [] (withSlash cs)) := by
  obtain ⟨path, after, rfl, hpath, hafter⟩ := Text.exists_run isPathChar cs
  have hplain : ((url.withPath [] (path ++ after)).query = none
      ∧ (url.withPath [] (path ++ after)).fragment = none) ↔ after = [] := by
    rw [withPath_run h.scheme [] hpath hafter]
    refine withQuery_plain_iff h.query h.fragment fun c hc => ?_
    refine Decidable.or_iff_not_imp_left.2 ?_
    simpa [isPathChar] using hafter c hc
  refine ⟨by simp, pushSegments false true [] [] path, path_withPath_run h.scheme [] hpath hafter,
    pushSegments_ne_nil, slash_not_mem_pushSegments nofun List.not_mem_nil, ?_⟩
  simp only [hplain]
  by_cases hrest : after = []
  · -- the text ends in the path
    subst hrest
    rw [List.append_nil] at hne hlast ⊢
    have hall : ∀ c ∈ withSlash path, isPathChar c := by
      intro c hc
      obtain hc | rfl := mem_withSlash hc
      · exact hpath c hc
      · decide
    rw [if_pos rfl, path_withPath h.scheme [] hall, pushSegments_withSlash hne hlast]
  · -- the slash comes after the path
    have hslash : withSlash (path ++ after) = path ++ withSlash after :=
      withSlash_append fun hnil => absurd hnil hrest
    rw [if_neg hrest, hslash, path_withPath_run h.scheme [] hpath (by rwa [head?_withSlash hrest])]

/-- The root is a slash already. -/
theorem slashed_root (h : url.IsHostOnly) :
    Slashed (url.withPath [] []) (url.withPath [] []) := by
  have hroot : (url.withPath [] []).path = .segments [[]] := path_withPath h.scheme [] nofun
  refine ⟨rfl, [[]], hroot, List.cons_ne_nil _ _, by simp, ?_⟩
  rw [hroot]
  split <;> rfl

theorem withPathStart_nil (h : url.IsHostOnly) : url.withPathStart [] = url.withPath [] [] :=
  if_pos h.scheme.1

/-- One slash in front of the path is skipped. -/
theorem withPathStart_cons (h : url.IsHostOnly) (c : Char) (rest : List Char) :
    url.withPathStart (c :: rest)
      = url.withPath [] (if isSlash true c then rest else c :: rest) := by
  have hspecial : url.isSpecial = true := h.scheme.1
  simp only [withPathStart, hspecial]
  split <;> simp

theorem slashed_withPathStart (h : url.IsHostOnly) {cs : List Char}
    (hlast : cs.getLast? ≠ some '\\') :
    Slashed (url.withPathStart cs) (url.withPathStart (withSlash cs)) := by
  have hroot : url.withPathStart ['/'] = url.withPath [] [] := h.withPathStart_cons '/' []
  cases cs with
  | nil =>
      show Slashed _ (url.withPathStart ['/'])
      rw [h.withPathStart_nil, hroot]
      exact h.slashed_root
  | cons c rest =>
      by_cases hc : isSlash true c
      · by_cases hrest : rest = []
        · -- the slash before the path is also the last character
          subst hrest
          obtain rfl : c = '/' := by
            have hback : c ≠ '\\' := by simpa using hlast
            simpa [isSlash, hback] using hc
          show Slashed _ (url.withPathStart ['/'])
          rw [hroot]
          exact h.slashed_root
        · have hsplit : withSlash ([c] ++ rest) = [c] ++ withSlash rest :=
            withSlash_append fun hnil => absurd hnil hrest
          rw [List.singleton_append, List.singleton_append] at hsplit
          have hlast' : rest.getLast? ≠ some '\\' := by
            rwa [List.getLast?_cons_of_ne_nil hrest] at hlast
          rw [hsplit, h.withPathStart_cons, h.withPathStart_cons, if_pos hc, if_pos hc]
          exact h.slashed_withPath hrest hlast'
      · obtain ⟨rest', hrest'⟩ : ∃ rest', withSlash (c :: rest) = c :: rest' :=
          List.head?_eq_some_iff.1 (head?_withSlash (List.cons_ne_nil c rest))
        have hslashed := h.slashed_withPath (List.cons_ne_nil c rest) hlast
        rw [hrest', h.withPathStart_cons, h.withPathStart_cons, if_neg hc, if_neg hc, ← hrest']
        exact hslashed

end IsHostOnly

/-! ### The slash before an authority is taken -/

section Authority

variable {A R : List Char}

/-- There is no special URL without a host. -/
theorem withHost_nil (hspecial : url.isSpecial) : url.withHost [] = .error .emptyHost := by
  simp [withHost, hspecial]
  rfl

theorem isSpecial_withUser (url : Url) (user : List Char) :
    (url.withUser user).isSpecial = url.isSpecial := rfl

/-- The text after an authority goes to the path, whatever it is. -/
theorem withAuthority_append (hspecial : url.isSpecial) (hA : ∀ c ∈ A, !endsHost true c)
    (hR : ∀ c ∈ R.head?, (!endsHost true c) = false) :
    url.withAuthority (A ++ R)
      = ((url.withUser (splitUser A).1).withHost (splitUser A).2).map
          fun v => v.withPathStart R := by
  have htake : (A ++ R).takeWhile (fun c => !endsHost true c) = A := Text.takeWhile_run hA hR
  simp only [withAuthority, hspecial, htake, List.drop_left]
  split
  · rename_i hempty
    have hhost : (splitUser A).2 = [] :=
      List.isEmpty_iff.1 (Bool.and_eq_true_iff.1 (Bool.and_eq_true_iff.1 hempty).1).2
    rw [hhost, withHost_nil (by rwa [isSpecial_withUser])]
    rfl
  · cases (url.withUser (splitUser A).1).withHost (splitUser A).2 <;> rfl

/-- A URL that is read from its authority on is also read with a slash. -/
theorem IsHostOnly.slashed_withAuthority (h : url.IsHostOnly) {cs : List Char}
    (hu : url.withAuthority cs = .ok u) (hlast : cs.getLast? ≠ some '\\') :
    cs ≠ [] ∧ ∃ v, url.withAuthority (withSlash cs) = .ok v ∧ Slashed u v := by
  obtain ⟨A, R, rfl, hA, hR⟩ := Text.exists_run (fun c => !endsHost true c) cs
  have hslash : withSlash (A ++ R) = A ++ withSlash R := by
    refine withSlash_append fun _ hend => ?_
    have hinside := hA '/' (List.mem_of_getLast? hend)
    cases hinside
  have hR' : ∀ c ∈ (withSlash R).head?, (!endsHost true c) = false := by
    by_cases hnil : R = []
    · subst hnil
      rintro c ⟨⟩
      rfl
    · rwa [head?_withSlash hnil]
  rw [withAuthority_append h.scheme.1 hA hR] at hu
  rw [hslash, withAuthority_append h.scheme.1 hA hR']
  cases hhost : (url.withUser (splitUser A).1).withHost (splitUser A).2 with
  | error fault => rw [hhost] at hu; cases hu
  | ok w =>
      rw [hhost] at hu
      obtain rfl : w.withPathStart R = u := Except.ok.inj hu
      obtain ⟨host, port, hw, hne⟩ := withHost_eq_ok hhost
      have honly : w.IsHostOnly := by
        rw [hw]
        exact ⟨h.scheme, h.query, h.fragment⟩
      -- host and port are set by now, and the path comes next
      refine ⟨fun hnil => ?_, w.withPathStart (withSlash R), rfl,
        honly.slashed_withPathStart (getLast?_ne_of_append hlast)⟩
      refine hne (by rw [isSpecial_withUser]; exact h.scheme.1) ?_
      rw [(List.append_eq_nil_iff.1 hnil).1]
      rfl

end Authority

theorem slashed_parseAfterScheme {scheme : String} (h : NeedsHost scheme) {cs : List Char}
    (hu : parseAfterScheme scheme none cs = .ok u) (hlast : cs.getLast? ≠ some '\\') :
    ∃ v, parseAfterScheme scheme none (withSlash cs) = .ok v ∧ Slashed u v := by
  have hfile : (scheme == "file") = false := beq_eq_false_iff_ne.2 h.2
  have hparse : ∀ cs, parseAfterScheme scheme none cs
      = ({ scheme } : Url).withAuthority (cs.dropWhile (isSlash true)) := by
    intro cs
    simp only [parseAfterScheme, hfile, h.1, Bool.false_eq_true, if_false, if_true]
  -- all slashes in front of the authority are skipped
  obtain ⟨S, rest, rfl, hskip, hfirst⟩ := Text.exists_run (isSlash true) cs
  rw [hparse, Text.dropWhile_run hskip hfirst] at hu
  have honly : ({ scheme } : Url).IsHostOnly := ⟨h, rfl, rfl⟩
  obtain ⟨hne, v, hv, hslashed⟩ := honly.slashed_withAuthority hu (getLast?_ne_of_append hlast)
  have hdrop : (withSlash (S ++ rest)).dropWhile (isSlash true) = withSlash rest := by
    rw [withSlash_append fun hnil => absurd hnil hne]
    exact Text.dropWhile_run hskip (by rwa [head?_withSlash hne])
  refine ⟨v, ?_, hslashed⟩
  rw [hparse, hdrop]
  exact hv

theorem takeScheme?_withSlash {scheme : String} {cs rest : List Char}
    (h : takeScheme? cs = some (scheme, rest)) :
    takeScheme? (withSlash cs) = some (scheme, withSlash rest) := by
  obtain ⟨c, name, rfl, hc, hname, rfl⟩ := takeScheme?_eq_some_iff.1 h
  refine takeScheme?_eq_some_iff.2 ⟨c, name, ?_, hc, hname, rfl⟩
  have hshape : ∀ rest, c :: name ++ ':' :: rest = (c :: name ++ [':']) ++ rest := by simp
  calc withSlash (c :: name ++ ':' :: rest)
      = withSlash ((c :: name ++ [':']) ++ rest) := by rw [hshape]
    _ = (c :: name ++ [':']) ++ withSlash rest := withSlash_append fun _ => by
      rw [List.getLast?_concat]
      decide
    _ = c :: name ++ ':' :: withSlash rest := (hshape _).symm

/-- **A slash after the text of a URL** opens another segment of its path if the
text ends in its path, and leaves the path alone otherwise. -/
theorem slashed_parse {s t : String} (hu : parse s = .ok u) (h : NeedsHost u.scheme)
    (ht : clean t = withSlash (clean s)) (hlast : (clean s).getLast? ≠ some '\\') :
    ∃ v, parse t = .ok v ∧ Slashed u v := by
  obtain ⟨rest, hscheme, hrest⟩ := parse_eq_ok hu
  obtain ⟨c, name, hclean, -, -, -⟩ := takeScheme?_eq_some_iff.1 hscheme
  have hsplit : clean s = (c :: name ++ [':']) ++ rest := by simp [hclean]
  obtain ⟨v, hv, hslashed⟩ :=
    slashed_parseAfterScheme h hrest (getLast?_ne_of_append (hsplit ▸ hlast))
  refine ⟨v, ?_, hslashed⟩
  rw [parse_eq, ht, takeScheme?_withSlash hscheme]
  exact hv

end VmAssessment.Url
