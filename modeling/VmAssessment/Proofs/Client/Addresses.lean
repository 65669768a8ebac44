/-
VmAssessment/Proofs/Client/Addresses.lean

Which base URLs of accepted settings the agent can be asked under.  Settings
are accepted if their base URL is a URL at all.  The client then puts a slash
at its end and resolves the paths of its calls against it.

For texts that end plainly this works out exactly for URLs of the two schemes
of the web that have neither a query nor a fragment, or whose path ends in a
slash on its own (`accepted_usable_iff`).  With a query the slash goes into the
query, and the last segment of the path is lost.
-/
import VmAssessment.Client.Basic
import VmAssessment.Proofs.Text.Runs
import VmAssessment.Proofs.Url.Slashes
import VmAssessment.Settings.Basic

namespace VmAssessment

open Url (clean withSlash withoutSlash)

namespace Client

/-! ### Blanks -/

/-- A text that ends, but for blanks, in a character that is neither a
backslash nor invisible. -/
def EndsPlainly (text : String) : Prop :=
  ∃ front last blanks, text.toList = front ++ last :: blanks
    ∧ 0x20 < last.toNat ∧ Text.isBlank last = false ∧ last ≠ '\\'
    ∧ ∀ c ∈ blanks, Text.isBlank c ∧ c.toNat ≤ 0x20

theorem toList_normalize (text : String) :
    (normalize text).toList = withSlash (Text.trimChars text.toList) := by
  have htrim : (Text.trim text).toList = Text.trimChars text.toList := String.toList_ofList
  unfold normalize withSlash
  rw [← htrim]
  simp only [beq_iff_eq]
  split
  · rfl
  · exact String.toList_push ..

/-- Control characters and spaces, which a URL loses at its ends. -/
def isEndBlank (c : Char) : Bool := c.toNat ≤ 0x20

/-- Characters that a URL keeps wherever they stand. -/
def isKept (c : Char) : Bool := !(c == '\t' || c == '\n' || c == '\r')

theorem isKept_of_not_isEndBlank {c : Char} (hc : isEndBlank c = false) : isKept c := by
  rw [isKept, Bool.not_eq_true']
  refine Bool.eq_false_iff.2 fun hblank => ?_
  obtain (rfl | rfl) | rfl : (c = '\t' ∨ c = '\n') ∨ c = '\r' := by simpa using hblank
  all_goals cases hc

variable {text : String} {front blanks : List Char} {last : Char}

theorem clean_eq (htext : text.toList = front ++ last :: blanks) (hlast : isEndBlank last = false)
    (hblanks : ∀ c ∈ blanks, isEndBlank c) :
    clean text = (front.dropWhile isEndBlank).filter isKept ++ [last] := by
  have htrim := Text.dropWhile_ends hlast hblanks front
  have hclean : clean text
      = (((text.toList.dropWhile isEndBlank).reverse.dropWhile isEndBlank).reverse).filter isKept :=
    rfl
  rw [hclean, htext, htrim, List.filter_append,
    List.filter_cons_of_pos (isKept_of_not_isEndBlank hlast)]
  rfl

/-- A URL starts with the letter of its scheme, so nothing but control characters
and spaces is dropped before it, and no blank is left. -/
theorem not_isBlank_of_head? {u : Url} (hu : Url.parse text = .ok u)
    (htext : text.toList = front ++ last :: blanks) (hlast : isEndBlank last = false)
    (hblanks : ∀ c ∈ blanks, isEndBlank c) :
    ∀ c ∈ (front.dropWhile isEndBlank).head?, Text.isBlank c = false := by
  intro c hc
  have hstay := List.head?_dropWhile_not isEndBlank front
  rw [Option.mem_def.1 hc] at hstay
  have hkept : isKept c := isKept_of_not_isEndBlank (by simpa using hstay)
  obtain ⟨rest, hrest⟩ : ∃ rest, front.dropWhile isEndBlank = c :: rest :=
    List.head?_eq_some_iff.1 hc
  obtain ⟨_, hscheme, -⟩ := Url.parse_eq_ok hu
  obtain ⟨d, name, hname, hletter, -⟩ := Url.takeScheme?_eq_some_iff.1 hscheme
  rw [clean_eq htext hlast hblanks, hrest, List.filter_cons_of_pos hkept] at hname
  obtain rfl : c = d := (List.cons.inj hname).1
  exact Text.not_isBlank_of_isAlpha hletter

/-- The client looks at the last character that is no blank. -/
theorem toList_normalize_eq (htext : text.toList = front ++ last :: blanks)
    (hlast : Text.isBlank last = false) (hblanks : ∀ c ∈ blanks, Text.isBlank c) :
    (normalize text).toList = front.dropWhile Text.isBlank ++ withSlash [last] := by
  have htrim : Text.trimChars text.toList = front.dropWhile Text.isBlank ++ [last] := by
    rw [Text.trimChars, htext, Text.dropWhile_ends hlast hblanks]
  rw [toList_normalize, htrim]
  exact Url.withSlash_append fun hnil => absurd hnil (List.cons_ne_nil _ _)

/-- The base URL of a text that ends plainly is the text's own URL with a
slash. -/
theorem clean_normalize {u : Url} (hu : Url.parse text = .ok u) (hend : EndsPlainly text) :
    clean (normalize text) = withSlash (clean text)
      ∧ (clean text).getLast? ≠ some '\\' := by
  obtain ⟨front, last, blanks, htext, hvisible, hblank, hback, hblanks⟩ := hend
  have hlast : isEndBlank last = false := decide_eq_false (by omega)
  have hends : ∀ c ∈ blanks, isEndBlank c := fun c hc => decide_eq_true (hblanks c hc).2
  have hclean := clean_eq htext hlast hends
  have hnormal := toList_normalize_eq htext hblank fun c hc => (hblanks c hc).1
  -- what the client trims and what a URL drops come to the same before a scheme
  have hdrop := Text.dropWhile_dropWhile (not_isBlank_of_head? hu htext hlast hends)
  have hwith : withSlash (clean text)
      = (front.dropWhile isEndBlank).filter isKept ++ withSlash [last] := by
    rw [hclean]
    exact Url.withSlash_append fun hnil => absurd hnil (List.cons_ne_nil _ _)
  refine ⟨?_, ?_⟩
  · rw [hwith]
    by_cases hslash : last = '/'
    · have hlast' : withSlash [last] = [last] := by rw [hslash]; rfl
      rw [hlast'] at hnormal ⊢
      rw [clean_eq hnormal hlast nofun, hdrop]
    · have hlast' : withSlash [last] = [last] ++ ['/'] := if_neg (by simpa using hslash)
      rw [hlast', ← List.append_assoc] at hnormal
      rw [hlast', clean_eq hnormal (by decide) nofun,
        Text.dropWhile_append_cons hlast, List.filter_append, hdrop,
        List.filter_cons_of_pos (isKept_of_not_isEndBlank hlast)]
      simp
  · rw [hclean, List.getLast?_concat]
    simpa using hback

/-! ### Endpoints -/

theorem base_eq_ok_iff {b : Url} : base text = .ok b ↔ Url.parse (normalize text) = .ok b := by
  unfold base
  split <;> simp_all

theorem endpoint_eq_ok_iff {b e : Url} {path : String} :
    endpoint b path = .ok e ↔ b.join path = .ok e := by
  unfold endpoint
  split <;> simp_all

theorem path_cases (call : Call) : call.path = "collector" ∨ call.path = "inventory"
    ∨ call.path = "agent" ∨ call.path = "agent/mode" := by
  cases call <;> simp [Call.path]

theorem isPlainReference_path (call : Call) : Url.IsPlainReference call.path := by
  obtain h | h | h | h := path_cases call <;> rw [h] <;>
    exact ⟨by decide, by decide, by decide, fun c hc => by cases hc; decide, by decide⟩

/-- The path of a call is added as it is written. -/
theorem chars_pushSegments_path (call : Call) (segments : List (List Char)) :
    (Url.Path.segments (Url.pushSegments false true segments [] call.path.toList)).chars
      = (Url.Path.segments segments).chars ++ '/' :: call.path.toList := by
  have hone : ∀ name : List Char, (Url.Path.segments (segments ++ [name])).chars
      = (Url.Path.segments segments).chars ++ '/' :: name := Url.chars_concat segments
  obtain h | h | h | h := path_cases call <;> rw [h]
  · exact hone "collector".toList
  · exact hone "inventory".toList
  · exact hone "agent".toList
  · show (Url.Path.segments (segments ++ ["agent".toList] ++ ["mode".toList])).chars
      = (Url.Path.segments segments).chars ++ '/' :: "agent/mode".toList
    rw [Url.chars_concat, hone]
    simp

/-- The scheme of an endpoint is that of the base URL. -/
theorem scheme_endpoint {b e : Url} {call : Call} (he : endpoint b call.path = .ok e) :
    e.scheme = b.scheme := by
  refine Url.scheme_join ?_ (endpoint_eq_ok_iff.1 he)
  rw [(isPlainReference_path call).clean]
  exact (isPlainReference_path call).scheme

theorem scheme_base {u b : Url} (hu : Url.parse text = .ok u) (hend : EndsPlainly text)
    (hb : base text = .ok b) : b.scheme = u.scheme := by
  obtain ⟨hclean, -⟩ := clean_normalize hu hend
  obtain ⟨rest, hscheme, -⟩ := Url.parse_eq_ok hu
  obtain ⟨rest', hscheme', -⟩ := Url.parse_eq_ok (base_eq_ok_iff.1 hb)
  rw [hclean, Url.takeScheme?_withSlash hscheme] at hscheme'
  exact (Prod.mk.inj (Option.some.inj hscheme')).1.symm

/-- Where the calls of a client go: after the base URL's path without its last
segment, which is empty if the text of the base URL ends in its path. -/
theorem exists_endpoint {u : Url} (hu : Url.parse text = .ok u) (hend : EndsPlainly text)
    (hscheme : Url.NeedsHost u.scheme) :
    ∃ b, base text = .ok b ∧ Url.Slashed u b ∧ ∀ segments, b.path = .segments segments →
      ∀ call : Call, ∃ e, endpoint b call.path = .ok e ∧ e.scheme = u.scheme
        ∧ e.path.chars
          = (Url.Path.segments segments.dropLast).chars ++ '/' :: call.path.toList := by
  obtain ⟨hclean, hback⟩ := clean_normalize hu hend
  obtain ⟨b, hb, hslashed⟩ := Url.slashed_parse hu hscheme hclean hback
  refine ⟨b, base_eq_ok_iff.2 hb, hslashed, fun segments hsegments call => ?_⟩
  have hneeds : Url.NeedsHost b.scheme := by rw [hslashed.scheme]; exact hscheme
  obtain ⟨e, he, hs, hpath⟩ := Url.join_plain hneeds hsegments (isPlainReference_path call)
  refine ⟨e, endpoint_eq_ok_iff.2 he, hs.trans hslashed.scheme, ?_⟩
  rw [hpath, chars_pushSegments_path]

/-! ### Usable base URLs -/

/-- The schemes of the web. -/
def IsWeb (scheme : String) : Prop := scheme = "http" ∨ scheme = "https"

theorem IsWeb.needsHost {scheme : String} (h : IsWeb scheme) : Url.NeedsHost scheme := by
  obtain rfl | rfl := h <;> exact ⟨by decide, by decide⟩

/-- The agent can be asked under a base URL: there is a client for it, and each
call goes to the web, to the path of the call after that of the URL. -/
def Usable (text : String) (u : Url) : Prop :=
  ∃ b, base text = .ok b ∧ ∀ call : Call, ∃ e, endpoint b call.path = .ok e ∧ IsWeb e.scheme
    ∧ e.pathText = String.ofList (withoutSlash u.path.chars ++ '/' :: call.path.toList)

theorem Usable.isWeb {u : Url} (h : Usable text u) (hu : Url.parse text = .ok u)
    (hend : EndsPlainly text) : IsWeb u.scheme := by
  obtain ⟨b, hb, hcalls⟩ := h
  obtain ⟨e, he, hweb, -⟩ := hcalls .status
  rwa [scheme_endpoint he, scheme_base hu hend hb] at hweb

/-- On the web a base URL is usable if its text ends in its path, or its path
in a slash. -/
theorem usable_iff_of_isWeb {u : Url} (hu : Url.parse text = .ok u) (hend : EndsPlainly text)
    (hweb : IsWeb u.scheme) :
    Usable text u
      ↔ u.path.chars.getLast? = some '/' ∨ u.query = none ∧ u.fragment = none := by
  obtain ⟨b, hb, hslashed, hcalls⟩ := exists_endpoint hu hend hweb.needsHost
  obtain ⟨segments, hpath, hne, hslash, hbpath⟩ := hslashed.path
  -- all depends on where the last segment of the client's base URL begins
  have hopened : (Url.Path.segments (if u.query = none ∧ u.fragment = none then
        Url.opened segments else segments).dropLast).chars
        = withoutSlash (Url.Path.segments segments).chars
      ↔ segments.getLast? = some [] ∨ u.query = none ∧ u.fragment = none := by
    by_cases hplain : u.query = none ∧ u.fragment = none
    · rw [if_pos hplain]
      exact ⟨fun _ => .inr hplain, fun _ => Url.chars_dropLast_opened hne hslash⟩
    · rw [if_neg hplain, Url.chars_dropLast_eq_iff hne hslash, or_iff_left hplain]
  rw [hpath, Url.getLast?_chars_iff hne hslash, ← hopened]
  constructor
  · rintro ⟨b', hb', hall⟩
    obtain rfl : b = b' := Except.ok.inj (hb.symm.trans hb')
    obtain ⟨e, he, -, hchars⟩ := hcalls _ hbpath .status
    obtain ⟨e', he', -, htext⟩ := hall .status
    obtain rfl : e = e' := Except.ok.inj (he.symm.trans he')
    rw [Url.pathText, hchars, hpath] at htext
    exact List.append_cancel_right (String.ofList_injective htext)
  · intro hchars
    refine ⟨b, hb, fun call => ?_⟩
    obtain ⟨e, he, hscheme, hpathText⟩ := hcalls _ hbpath call
    refine ⟨e, he, by rw [hscheme]; exact hweb, ?_⟩
    rw [Url.pathText, hpathText, hpath, hchars]

/-- **Which accepted base URLs are usable.**  Settings with a base URL that ends
plainly are usable if it is of the web and has neither a query nor a fragment,
or a path that ends in a slash; all others are accepted as well. -/
theorem accepted_usable_iff {s : Settings} (hs : s.fault? = none)
    (hend : EndsPlainly s.agent.baseUrl) :
    ∃ u, Url.parse s.agent.baseUrl = .ok u ∧ (Usable s.agent.baseUrl u ↔ IsWeb u.scheme
      ∧ (u.path.chars.getLast? = some '/' ∨ u.query = none ∧ u.fragment = none)) := by
  obtain ⟨u, hu⟩ : ∃ u, Url.parse s.agent.baseUrl = .ok u := by
    unfold Settings.fault? at hs
    repeat' split at hs
    all_goals first | contradiction | exact ⟨_, ‹_›⟩
  refine ⟨u, hu, fun h => ?_, fun h => ?_⟩
  · have hweb := h.isWeb hu hend
    exact ⟨hweb, (usable_iff_of_isWeb hu hend hweb).1 h⟩
  · exact (usable_iff_of_isWeb hu hend h.1).2 h.2

/-- The settings that come with the console are usable. -/
theorem defaults_usable :
    ({} : Settings).fault? = none ∧ EndsPlainly ({} : Settings).agent.baseUrl
      ∧ ∃ u, Url.parse ({} : Settings).agent.baseUrl = .ok u
        ∧ Usable ({} : Settings).agent.baseUrl u := by
  have hs : ({} : Settings).fault? = none := by decide +kernel
  have hend : EndsPlainly ({} : Settings).agent.baseUrl :=
    ⟨"http://localhost:8000/api/v".toList, '1', [], by decide, by decide, by decide, by decide,
      nofun⟩
  obtain ⟨u, hu, husable⟩ := accepted_usable_iff hs hend
  have hparts : (Url.parse ({} : Settings).agent.baseUrl).toOption.map
      (fun u => (u.scheme, u.query, u.fragment)) = some ("http", none, none) := by
    decide +kernel
  rw [hu] at hparts
  obtain ⟨hscheme, hquery, hfragment⟩ : u.scheme = "http" ∧ u.query = none ∧ u.fragment = none := by
    simpa [Except.toOption] using hparts
  exact ⟨hs, hend, u, hu, husable.2 ⟨.inl hscheme, .inr ⟨hquery, hfragment⟩⟩⟩

/-- With a query the calls lose the last segment of the path, and yet the
settings are accepted. -/
theorem query_loses_segment :
    let s : Settings := { agent := { baseUrl := "http://agent/api/v1?tenant=a" } }
    s.fault? = none
      ∧ ∀ u, Url.parse s.agent.baseUrl = .ok u → ¬Usable s.agent.baseUrl u := by
  refine ⟨by decide +kernel, ?_⟩
  intro u hu
  rintro ⟨b, hb, hcalls⟩
  obtain ⟨e, he, -, htext⟩ := hcalls .status
  have hpath : (Url.parse "http://agent/api/v1?tenant=a").toOption.map (·.path.chars)
      = some "/api/v1".toList := by decide +kernel
  have htarget : ((base "http://agent/api/v1?tenant=a").toOption.bind fun b =>
      (endpoint b "collector").toOption.map (·.pathText)) = some "/api/collector" := by
    decide +kernel
  have hlost : e.pathText = "/api/collector" := by
    rw [hb] at htarget
    have hendpoint : (endpoint b "collector") = .ok e := he
    simpa [Except.toOption, hendpoint] using htarget
  have hown : u.path.chars = "/api/v1".toList := by
    rw [hu] at hpath
    simpa [Except.toOption] using hpath
  rw [hlost, hown] at htext
  revert htext
  decide

end Client

end VmAssessment
