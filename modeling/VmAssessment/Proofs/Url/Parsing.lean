/-
VmAssessment/Proofs/Url/Parsing.lean

How a URL is put together from its text: what each part leaves alone, where
the scheme ends, and what a reference that is a plain path takes the place of.

A URL keeps the scheme that its text starts with (`parse_eq_ok`), and a
reference without one has that of its base (`scheme_join`).
-/
import VmAssessment.Proofs.Text.Runs
import VmAssessment.Proofs.Url.Paths

namespace VmAssessment.Url

variable {url base u : Url} {cs : List Char} {segments : List (List Char)}

/-! ### Parts that stay -/

@[simp] theorem scheme_withFragment (url : Url) (cs : List Char) :
    (url.withFragment cs).scheme = url.scheme := by
  unfold withFragment
  split <;> rfl

@[simp] theorem path_withFragment (url : Url) (cs : List Char) :
    (url.withFragment cs).path = url.path := by
  unfold withFragment
  split <;> rfl

@[simp] theorem query_withFragment (url : Url) (cs : List Char) :
    (url.withFragment cs).query = url.query := by
  unfold withFragment
  split <;> rfl

@[simp] theorem scheme_withQuery (url : Url) (cs : List Char) :
    (url.withQuery cs).scheme = url.scheme := by
  unfold withQuery
  split <;> simp

@[simp] theorem path_withQuery (url : Url) (cs : List Char) :
    (url.withQuery cs).path = url.path := by
  unfold withQuery
  split <;> simp

@[simp] theorem scheme_withPath (url : Url) (segments : List (List Char)) (cs : List Char) :
    (url.withPath segments cs).scheme = url.scheme := by
  simp [withPath]

@[simp] theorem scheme_withPathStart (url : Url) (cs : List Char) :
    (url.withPathStart cs).scheme = url.scheme := by
  unfold withPathStart
  split
  · split <;> simp
  · split
    · simp
    · split <;> simp

@[simp] theorem scheme_withOpaquePath (url : Url) (cs : List Char) :
    (url.withOpaquePath cs).scheme = url.scheme := by
  simp [withOpaquePath]

/-- What follows a path has no query and no fragment exactly if it is nothing. -/
theorem withQuery_plain_iff {cs : List Char} (hquery : url.query = none)
    (hfragment : url.fragment = none) (hcs : ∀ c ∈ cs.head?, c = '?' ∨ c = '#') :
    ((url.withQuery cs).query = none ∧ (url.withQuery cs).fragment = none) ↔ cs = [] := by
  cases cs with
  | nil => simp [withQuery, withFragment, hquery, hfragment]
  | cons c cs =>
      obtain rfl | rfl := hcs c rfl
      · simp [withQuery]
      · simp [withQuery, withFragment]

/-! ### Where a scheme ends -/

/-- Characters of a scheme. -/
def isSchemeChar (c : Char) : Bool := c.isAlphanum || c == '+' || c == '-' || c == '.'

theorem takeScheme?_cons (c : Char) (cs : List Char) : takeScheme? (c :: cs) =
    if c.isAlpha then
      match (c :: cs).dropWhile isSchemeChar with
      | ':' :: rest =>
        some (String.ofList (((c :: cs).takeWhile isSchemeChar).map Char.toLower), rest)
      | _ => none
    else none := rfl

/-- A scheme stands before the first colon, starts with a letter and is made of
its characters only. -/
theorem takeScheme?_eq_some_iff {scheme : String} {cs rest : List Char} :
    takeScheme? cs = some (scheme, rest) ↔ ∃ c name, cs = c :: name ++ ':' :: rest ∧ c.isAlpha
      ∧ (∀ d ∈ name, isSchemeChar d) ∧ scheme = String.ofList ((c :: name).map Char.toLower) := by
  have hletter : ∀ {c : Char}, c.isAlpha → isSchemeChar c := by
    intro c hc
    simp [isSchemeChar, Char.isAlphanum, hc]
  constructor
  · -- the longest run of its characters is the scheme, if a colon follows
    intro h
    cases cs with
    | nil => cases h
    | cons c cs =>
        rw [takeScheme?_cons] at h
        split at h
        · rename_i hc
          split at h
          · rename_i after hdrop
            cases h
            have hsplit := List.takeWhile_append_dropWhile (p := isSchemeChar) (l := c :: cs)
            have htake : (c :: cs).takeWhile isSchemeChar = c :: cs.takeWhile isSchemeChar :=
              List.takeWhile_cons_of_pos (hletter hc)
            refine ⟨c, cs.takeWhile isSchemeChar, ?_, hc, ?_, by rw [htake]⟩
            · rw [← htake, ← hdrop, hsplit]
            · exact List.all_eq_true.1 List.all_takeWhile
          · cases h
        · cases h
  · rintro ⟨c, name, rfl, hc, hname, rfl⟩
    -- a colon is no such character, so the run ends there
    have hall : ∀ d ∈ c :: name, isSchemeChar d := by
      intro d hd
      obtain rfl | hd := List.mem_cons.1 hd
      · exact hletter hc
      · exact hname d hd
    have hcolon : ∀ d ∈ (':' :: rest).head?, isSchemeChar d = false := by
      rintro d ⟨⟩
      decide
    have htake : (c :: name ++ ':' :: rest).takeWhile isSchemeChar = c :: name :=
      Text.takeWhile_run hall hcolon
    have hdrop : (c :: name ++ ':' :: rest).dropWhile isSchemeChar = ':' :: rest :=
      Text.dropWhile_run hall hcolon
    rw [List.cons_append] at htake hdrop ⊢
    rw [takeScheme?_cons, if_pos hc, hdrop, htake]
    rfl

/-! ### The scheme stays -/

theorem withHost_eq_ok (h : url.withHost cs = .ok u) :
    ∃ host port, u = { url with host := some host, port } ∧ (url.isSpecial → cs ≠ []) := by
  simp only [withHost, bind, Except.bind, pure, Except.pure, throw, throwThe,
    MonadExceptOf.throw] at h
  split at h
  · cases h
  · rename_i hempty
    repeat' split at h
    all_goals cases h
    all_goals exact ⟨_, _, rfl, fun hs hnil => hempty (by simp [hs, hnil])⟩

theorem scheme_withAuthority (h : url.withAuthority cs = .ok u) : u.scheme = url.scheme := by
  simp only [withAuthority, bind, Except.bind, pure, Except.pure, throw, throwThe,
    MonadExceptOf.throw] at h
  split at h
  · cases h
  split at h
  · cases h
  · rename_i v hv
    obtain ⟨host, port, rfl, -⟩ := withHost_eq_ok hv
    obtain rfl := Except.ok.inj h
    rw [scheme_withPathStart]
    rfl

theorem scheme_withFileHost (h : url.withFileHost cs = .ok u) : u.scheme = url.scheme := by
  simp only [withFileHost, bind, Except.bind, pure, Except.pure] at h
  repeat' split at h
  all_goals cases h
  all_goals simp

theorem scheme_parseFile {b : Option Url} (hb : ∀ v ∈ b, v.scheme = "file")
    (h : parseFile b cs = .ok u) : u.scheme = "file" := by
  simp only [parseFile, pure, Except.pure] at h
  repeat' split at h
  · exact scheme_withFileHost h
  all_goals
    obtain rfl := Except.ok.inj h
    simp_all

theorem scheme_parseAfterScheme {scheme : String} (h : parseAfterScheme scheme none cs = .ok u) :
    u.scheme = scheme := by
  unfold parseAfterScheme at h
  split at h
  · rename_i hfile
    rw [beq_iff_eq.1 hfile]
    refine scheme_parseFile ?_ h
    intro v hv
    cases hv
  split at h
  · exact scheme_withAuthority h
  split at h
  · exact scheme_withAuthority h
  · obtain rfl := Except.ok.inj h
    rw [scheme_withPath]
  · obtain rfl := Except.ok.inj h
    rw [scheme_withOpaquePath]

theorem parse_eq (s : String) : parse s =
    match takeScheme? (clean s) with
    | some (scheme, rest) => parseAfterScheme scheme none rest
    | none => .error .relativeWithoutBase := by
  unfold parse parseFrom
  cases hscheme : takeScheme? (clean s) <;> simp only [hscheme]

/-- A URL keeps the scheme that its text starts with. -/
theorem parse_eq_ok {s : String} (h : parse s = .ok u) :
    ∃ rest, takeScheme? (clean s) = some (u.scheme, rest)
      ∧ parseAfterScheme u.scheme none rest = .ok u := by
  rw [parse_eq] at h
  split at h
  · rename_i scheme rest hscheme
    obtain rfl := scheme_parseAfterScheme h
    exact ⟨rest, hscheme, h⟩
  · cases h

theorem scheme_parseRelative (h : parseRelative base cs = .ok u) : u.scheme = base.scheme := by
  simp only [parseRelative] at h
  split at h
  · obtain rfl := Except.ok.inj h
    rfl
  · obtain rfl := Except.ok.inj h
    rw [scheme_withQuery]
  · obtain rfl := Except.ok.inj h
    rw [scheme_withFragment]
  · split at h
    · split at h
      · split at h
        · have hv := scheme_withAuthority h
          exact hv
        · obtain rfl := Except.ok.inj h
          rw [scheme_withPath]
      · obtain rfl := Except.ok.inj h
        rw [scheme_withPath]
    · split at h
      · obtain rfl := Except.ok.inj h
        rw [scheme_withPath]
      · cases h

/-- A reference without a scheme keeps that of the base. -/
theorem scheme_join {reference : String} (hscheme : takeScheme? (clean reference) = none)
    (h : base.join reference = .ok u) : u.scheme = base.scheme := by
  simp only [join, parseFrom, hscheme] at h
  split at h
  · obtain rfl := Except.ok.inj h
    rw [scheme_withFragment]
  split at h
  · cases h
  split at h
  · rename_i hfile
    rw [beq_iff_eq.1 hfile]
    refine scheme_parseFile ?_ h
    rintro v ⟨⟩
    exact beq_iff_eq.1 hfile
  · exact scheme_parseRelative h

/-! ### Where a path ends -/

/-- Characters of a path: all before a query or a fragment. -/
def isPathChar (c : Char) : Bool := c != '?' && c != '#'

/-- A scheme whose URLs have a host, which may not be empty. -/
def NeedsHost (scheme : String) : Prop := isSpecialScheme scheme ∧ scheme ≠ "file"

/-- A path is read up to a query or a fragment. -/
theorem withPath_run (h : NeedsHost url.scheme) (segments : List (List Char))
    {path after : List Char} (hpath : ∀ c ∈ path, isPathChar c)
    (hafter : ∀ c ∈ after.head?, isPathChar c = false) :
    url.withPath segments (path ++ after)
      = { url with path := .segments (pushSegments false true segments [] path) }.withQuery
          after := by
  have hfile : (url.scheme == "file") = false := beq_eq_false_iff_ne.2 h.2
  have hspecial : url.isSpecial = true := h.1
  have htake : (path ++ after).takeWhile (fun c => c != '?' && c != '#') = path :=
    Text.takeWhile_run hpath hafter
  simp only [withPath, hfile, hspecial, htake, List.drop_left, Bool.false_eq_true, if_false]

theorem path_withPath_run (h : NeedsHost url.scheme) (segments : List (List Char))
    {path after : List Char} (hpath : ∀ c ∈ path, isPathChar c)
    (hafter : ∀ c ∈ after.head?, isPathChar c = false) :
    (url.withPath segments (path ++ after)).path
      = .segments (pushSegments false true segments [] path) := by
  rw [withPath_run h segments hpath hafter, path_withQuery]

/-- A path may be all that is left. -/
theorem path_withPath (h : NeedsHost url.scheme) (segments : List (List Char)) {path : List Char}
    (hpath : ∀ c ∈ path, isPathChar c) :
    (url.withPath segments path).path
      = .segments (pushSegments false true segments [] path) := by
  have hrun := path_withPath_run h segments hpath (fun c (hc : c ∈ [].head?) => nomatch hc)
  rwa [List.append_nil] at hrun

/-! ### References -/

/-- A reference that is a path of its own: it starts with neither a slash nor a
scheme and has neither a query nor a fragment. -/
structure IsPlainReference (reference : String) : Prop where
  ne_nil : reference.toList ≠ []
  clean : clean reference = reference.toList
  scheme : takeScheme? reference.toList = none
  slash : ∀ c ∈ reference.toList.head?, isSlash true c = false
  path : reference.toList.all isPathChar

theorem shorten_eq (segments : List (List Char)) : shorten false segments = segments.dropLast := by
  unfold shorten
  split <;> rfl

/-- A reference that starts as a path does is read as one. -/
theorem join_eq_withPath (hbase : NeedsHost base.scheme) (hpath : base.path = .segments segments)
    {reference : String} {c : Char} {rest : List Char} (hclean : clean reference = c :: rest)
    (hscheme : takeScheme? (c :: rest) = none) (hc : isPathChar c)
    (hslash : isSlash true c = false) :
    base.join reference
      = .ok ({ base with query := none, fragment := none }.withPath segments.dropLast
          (c :: rest)) := by
  have hfile : (base.scheme == "file") = false := beq_eq_false_iff_ne.2 hbase.2
  have hspecial : base.isSpecial = true := hbase.1
  have hrooted : base.hasOpaquePath = false := by
    unfold hasOpaquePath
    rw [hpath]
  -- it is neither a query nor a fragment alone
  have hquery : c ≠ '?' := by
    rintro rfl
    cases hc
  have hfragment : c ≠ '#' := by
    rintro rfl
    cases hc
  have hrelative : base.join reference = parseRelative base (c :: rest) := by
    simp only [join, parseFrom, hclean, hscheme]
    split
    · rename_i heq
      cases heq
      exact absurd rfl hfragment
    · rw [if_neg (by simp [hrooted]), if_neg (by simp [hfile])]
  rw [hrelative]
  simp only [parseRelative, hspecial, hslash, hfile, shorten_eq, hpath]
  rw [if_neg (by simp)]

/-- A plain reference takes the place of the last segment. -/
theorem join_plain (hbase : NeedsHost base.scheme) (hpath : base.path = .segments segments)
    {reference : String} (href : IsPlainReference reference) :
    ∃ v, base.join reference = .ok v ∧ v.scheme = base.scheme
      ∧ v.path = .segments (pushSegments false true segments.dropLast [] reference.toList) := by
  obtain ⟨c, rest, hcs⟩ := List.exists_cons_of_ne_nil href.ne_nil
  have hchars : ∀ d ∈ c :: rest, isPathChar d := hcs ▸ List.all_eq_true.1 href.path
  have hslash : isSlash true c = false := href.slash c (by rw [hcs]; rfl)
  refine ⟨_, join_eq_withPath hbase hpath (href.clean.trans hcs) (hcs ▸ href.scheme)
    (hchars c (List.mem_cons_self ..)) hslash, scheme_withPath .., ?_⟩
  have hbare : NeedsHost ({ base with query := none, fragment := none } : Url).scheme := hbase
  rw [hcs]
  exact path_withPath hbare _ hchars

end VmAssessment.Url
