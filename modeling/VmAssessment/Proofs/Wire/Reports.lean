/-
VmAssessment/Proofs/Wire/Reports.lean

Status reports on the wire.  A report is written in one way only, but it may
be spelled in many: its phase stands under one of two names, an option may be
null or left out, fields of other names are skipped, and a list of the parts
in order will do as well.  `Spells` says which values spell which report, and
the reader agrees with it (`statusReport?_eq_some_iff`).
-/
import VmAssessment.Proofs.Client.Refusals
import VmAssessment.Proofs.Json.RoundTrip
import VmAssessment.Wire.Status

namespace VmAssessment.Wire

variable {α : Type} {fields : List (Json.Text? × Json)}

/-! ### Parts of a record -/

/-- What an object holds under one of some names. -/
def valuesUnder (names : List String) (fields : List (Json.Text? × Json)) : List Json :=
  (fields.filter fun (k, _) => k.any names.contains).map (·.2)

/-- A field may be given once, or left out. -/
theorem fieldIn?_eq_some_iff_valuesUnder {names : List String} {v : Option Json} :
    fieldIn? fields names = some v ↔ valuesUnder names fields = v.toList := by
  rw [fieldIn?, valuesUnder]
  generalize List.filter _ fields = found
  rcases found with _ | ⟨⟨k, w⟩, _ | ⟨field, rest⟩⟩
  · cases v <;> simp
  · cases v <;> simp
  · cases v <;> simp

/-- What stands for an option: the value as it is written, and for nothing null
or no value at all. -/
def StandsFor (write : α → Json) (v : Option Json) : Option α → Prop
  | some a => v = some (write a)
  | none => v = none ∨ v = some .null

theorem standsFor_map (write : α → Json) (o : Option α) : StandsFor write (o.map write) o := by
  cases o with
  | none => exact .inl rfl
  | some a => rfl

theorem optional_eq_some_iff {read : Json → Option α} {write : α → Json} {v : Option Json}
    {o : Option α} (hread : ∀ v a, read v = some a ↔ v = write a)
    (hnull : ∀ a, write a ≠ .null) : optional read v = some o ↔ StandsFor write v o := by
  -- what says nothing is told apart before the value is read
  by_cases hv : v = none ∨ v = some .null
  · have hnone : optional read v = some none := by
      obtain rfl | rfl := hv <;> rfl
    rw [hnone]
    cases o with
    | none => exact iff_of_true rfl hv
    | some a =>
        refine iff_of_false nofun ?_
        rintro rfl
        obtain hw | hw := hv
        · cases hw
        · exact hnull a (Option.some.inj hw)
  · obtain ⟨w, rfl⟩ := Option.ne_none_iff_exists'.1 fun h => hv (.inl h)
    have hread' : optional read (some w) = (read w).map some := by
      cases w <;> first | rfl | exact absurd (.inr rfl) hv
    cases o with
    | none =>
        refine iff_of_false ?_ hv
        rw [hread']
        simp
    | some a => simp [hread', StandsFor, hread, Option.map_eq_some_iff]

/-! ### Reports -/

/-- A phase is spelled by its name, or by an object whose one field has that
name and holds null. -/
def SpellsPhase (v : Json) (p : Phase) : Prop :=
  v = .text p.wireName ∨ v = .object [(some p.wireName, .null)]

/-- The parts of a report, each with what stands for it. -/
structure Parts (phase : Json) (hasCredentials error : Option Json) (r : StatusReport) : Prop where
  phase : SpellsPhase phase r.phase
  hasCredentials : StandsFor Json.bool hasCredentials r.hasCredentials
  error : StandsFor Json.text error r.error

/-- The values that spell a report. -/
inductive Spells : Json → StatusReport → Prop
  /-- Every name is a text; the phase is given once, under either name, and an
  option once at most. -/
  | object {fields : List (Json.Text? × Json)} {phase : Json} {hasCredentials error : Option Json}
      {r : StatusReport} : fields.all (·.1.isSome) = true →
      valuesUnder ["status", "state"] fields = [phase] →
      valuesUnder ["hasCredentials"] fields = hasCredentials.toList →
      valuesUnder ["error"] fields = error.toList →
      Parts phase hasCredentials error r → Spells (.object fields) r
  /-- The phase, and after it as many of the options as there are. -/
  | array {phase : Json} {options : List Json} {r : StatusReport} : options.length ≤ 2 →
      Parts phase options[0]? options[1]? r → Spells (.array (phase :: options)) r

theorem bool?_eq_some_iff {v : Json} {b : Bool} : bool? v = some b ↔ v = .bool b := by
  cases v <;> simp [bool?]

theorem ofWireName?_eq_some_iff {s : String} {p : Phase} :
    Phase.ofWireName? s = some p ↔ s = p.wireName := by
  constructor
  · intro h
    have hname := List.find?_some h
    exact (by simpa using hname : p.wireName = s).symm
  · rintro rfl
    cases p <;> rfl

theorem choice?_eq_some_iff {v : Json} {p : Phase} :
    choice? Phase.ofWireName? v = some p ↔ SpellsPhase v p := by
  unfold choice?
  split
  · next s =>
    cases s <;> simp [SpellsPhase, Json.text, ofWireName?_eq_some_iff]
  · next name =>
    cases name <;> simp [SpellsPhase, Json.text, ofWireName?_eq_some_iff]
  · next hstring hobject =>
    simp only [reduceCtorEq, SpellsPhase, false_iff, not_or]
    exact ⟨hstring _, hobject _⟩

/-- Reading the parts of a report. -/
def readParts? (phase hasCredentials error : Option Json) : Option StatusReport := do
  return ⟨← required (choice? Phase.ofWireName?) phase,
    ← optional bool? hasCredentials, ← optional text? error⟩

theorem readParts?_eq_some_iff {phase hasCredentials error : Option Json} {r : StatusReport} :
    readParts? phase hasCredentials error = some r ↔
      ∃ v, phase = some v ∧ Parts v hasCredentials error r := by
  have hcredentials : ∀ o, optional bool? hasCredentials = some o ↔ _ := fun o =>
    optional_eq_some_iff (fun v b => bool?_eq_some_iff) (fun b => nofun)
  have herror : ∀ o, optional text? error = some o ↔ _ := fun o =>
    optional_eq_some_iff (fun v s => text?_eq_some_iff) (fun s => nofun)
  cases phase with
  | none => simp [readParts?, required]
  | some v =>
      simp only [readParts?, required, Option.bind_eq_bind, Option.bind_eq_some_iff, pure,
        choice?_eq_some_iff, hcredentials, herror, Option.some.injEq, exists_eq_left']
      constructor
      · rintro ⟨p, hp, o, ho, e, he, rfl⟩
        exact ⟨hp, ho, he⟩
      · intro h
        exact ⟨_, h.phase, _, h.hasCredentials, _, h.error, rfl⟩

theorem statusReport?_object (h : fields.all (·.1.isSome) = true) :
    statusReport? (.object fields) = (do
      readParts? (← fieldIn? fields ["status", "state"]) (← fieldIn? fields ["hasCredentials"])
        (← fieldIn? fields ["error"])) := by
  simp [statusReport?, record?, h, Option.bind_assoc, readParts?]

/-- A list is read by position, and what is missing at its end is left out. -/
theorem statusReport?_array {items : List Json} (h : items.length ≤ 3) :
    statusReport? (.array items) = readParts? items[0]? items[1]? items[2]? := by
  match items with
  | [] => rfl
  | [_] => rfl
  | [_, _] => rfl
  | [_, _, _] => rfl
  | _ :: _ :: _ :: _ :: rest =>
      simp only [List.length_cons] at h
      omega

/-- **A value is read as a report if and only if it spells it.** -/
theorem statusReport?_eq_some_iff {v : Json} {r : StatusReport} :
    statusReport? v = some r ↔ Spells v r := by
  cases v with
  | object fields =>
      by_cases hnamed : fields.all (·.1.isSome) = true
      · rw [statusReport?_object hnamed]
        simp only [Option.bind_eq_bind, Option.bind_eq_some_iff, fieldIn?_eq_some_iff_valuesUnder,
          readParts?_eq_some_iff]
        constructor
        · rintro ⟨_, hphase, hasCredentials, hcredentials, error, herror, phase, rfl, hparts⟩
          exact .object hnamed hphase hcredentials herror hparts
        · intro h
          cases h with
          | @object _ phase _ _ _ _ hphase hcredentials herror hparts =>
              exact ⟨some phase, hphase, _, hcredentials, _, herror, phase, rfl, hparts⟩
      · refine iff_of_false ?_ ?_
        · simp [statusReport?, record?, hnamed]
        · rintro ⟨h, -⟩
          exact hnamed h
  | array items =>
      by_cases hlength : items.length ≤ 3
      · rw [statusReport?_array hlength, readParts?_eq_some_iff]
        constructor
        · rintro ⟨phase, hphase, hparts⟩
          obtain ⟨options, rfl⟩ : ∃ options, items = phase :: options := by
            rw [← List.head?_eq_getElem?] at hphase
            exact List.head?_eq_some_iff.1 hphase
          exact .array (Nat.le_of_succ_le_succ hlength) hparts
        · intro h
          cases h with
          | array _ hparts => exact ⟨_, rfl, hparts⟩
      · refine iff_of_false ?_ ?_
        · simp [statusReport?, record?, hlength]
        · intro h
          cases h with
          | array htwo _ => exact hlength (Nat.succ_le_succ htwo)
  | _ =>
      refine iff_of_false ?_ ?_
      · simp [statusReport?, record?]
      · intro h
        cases h

/-! ### Written and read -/

/-- The text of a report. -/
def reportText (r : StatusReport) : String := (ofStatusReport r).render

/-- The report a text denotes. -/
def reportOf? (text : String) : Option StatusReport := (Json.ofString? text).bind statusReport?

/-- A text is read as a report if and only if its value spells it. -/
theorem reportOf?_eq_some_iff {text : String} {r : StatusReport} :
    reportOf? text = some r ↔ ∃ v, Json.ofString? text = some v ∧ Spells v r := by
  simp only [reportOf?, Option.bind_eq_some_iff, statusReport?_eq_some_iff]

/-- There is nothing in a report that cannot be printed. -/
theorem proper_ofStatusReport (r : StatusReport) : (ofStatusReport r).Proper := by
  obtain ⟨phase, hasCredentials, error⟩ := r
  cases hasCredentials <;> cases error <;>
    simp [ofStatusReport, Json.fields, unlessNone, Json.text, Json.Proper, Json.ProperFields]

/-- A report is written as an object that spells it. -/
theorem spells_ofStatusReport (r : StatusReport) : Spells (ofStatusReport r) r := by
  have hparts : Parts (.text r.phase.wireName) (r.hasCredentials.map .bool) (r.error.map .text) r :=
    ⟨.inl rfl, standsFor_map .bool r.hasCredentials, standsFor_map .text r.error⟩
  refine .object ?_ ?_ ?_ ?_ hparts
  all_goals
    -- which fields there are depends on the options alone
    cases r.hasCredentials <;> cases r.error <;> simp [unlessNone, valuesUnder]

/-- Every report is read back from its text. -/
theorem reportOf?_reportText (r : StatusReport) : reportOf? (reportText r) = some r :=
  reportOf?_eq_some_iff.2
    ⟨_, Json.ofString?_render (proper_ofStatusReport r), spells_ofStatusReport r⟩

/-- **A report survives the wire.**  Every report is read back from its text,
whatever characters its error has.  A text of any spelling that is read as a
report can be replaced by the text of that report.  And it is read as the
report if and only if it denotes a value that spells it: an object with the
phase under either name, the options as they are, null or left out, and any
fields of other names, or a list of the parts. -/
theorem report_round_trip :
    (∀ r, reportOf? (reportText r) = some r) ∧
      (∀ text r, reportOf? text = some r → reportOf? (reportText r) = some r) ∧
      ∀ text r, reportOf? text = some r ↔ ∃ v, Json.ofString? text = some v ∧ Spells v r :=
  ⟨reportOf?_reportText, fun _ r _ => reportOf?_reportText r, fun _ _ => reportOf?_eq_some_iff⟩

/-- A text with blanks, the other name of the phase, a field that means nothing
and a null spells a report, and can be replaced by the report's own text. -/
theorem loose_report_survives :
    let loose := "\x7b \"since\": [7, \"\\u000a\"], \"state\": \"collecting\", \"error\": null \x7d"
    let report : StatusReport := ⟨.collecting, none, none⟩
    reportOf? loose = some report ∧
      (∃ v, Json.ofString? loose = some v ∧ Spells v report) ∧
      reportOf? (reportText report) = some report := by
  intro loose report
  have hread : reportOf? loose = some report := by decide +kernel
  obtain ⟨-, hkept, hspelled⟩ := report_round_trip
  exact ⟨hread, (hspelled loose report).1 hread, hkept loose report hread⟩

end VmAssessment.Wire

namespace VmAssessment.Client

/-- **An answer of success with the bytes of a report brings the report.** -/
theorem reply_reportText (url : Url) (r : StatusReport) {status : Nat} (hlow : 200 ≤ status)
    (hhigh : status < 300) :
    (reply .status url (.arrived status (Wire.reportText r).toUTF8.toList)
      : Except Fault StatusReport) = .ok r := by
  have hbody : bodyOf url (.arrived status (Wire.reportText r).toUTF8.toList)
      = .ok (Wire.reportText r).toUTF8.toList :=
    bodyOf_eq_ok_iff.2 ⟨status, rfl, hlow, hhigh⟩
  have hdecode : decode url Wire.statusReport? (Wire.reportText r).toUTF8.toList = .ok r := by
    rw [decode_eq_ok_iff, Json.ofBytes?_toUTF8]
    exact Wire.reportOf?_reportText r
  rw [reply, hbody]
  exact hdecode

end VmAssessment.Client
