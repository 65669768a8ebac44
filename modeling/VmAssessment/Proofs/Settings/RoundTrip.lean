/-
VmAssessment/Proofs/Settings/RoundTrip.lean

Settings are read back as they were written, from their text
(`Settings.parse_write`) and from the file they were saved to
(`Settings.read_save`).  The text is a document of four tables (`write_eq`),
each of whose entries is read up to the end of its line, so the document comes
back table by table; and from its tables the settings come back field by field.
-/
import VmAssessment.Proofs.Settings.Durations
import VmAssessment.Proofs.Text.Utf8
import VmAssessment.Proofs.Toml.Documents
import VmAssessment.Proofs.Toml.Values
import VmAssessment.Settings.File

namespace VmAssessment

open Toml (Field Group)

namespace Settings

/-! ### Entries -/

theorem isKept_word (n : UInt64) : Toml.isKept n.toNat := by
  have hn := n.toNat_lt
  simp only [Toml.isKept, Bool.and_eq_true, decide_eq_true_eq]
  omega

theorem writeWord_eq (n : UInt64) : writeWord n = Nat.toDigits 10 n.toNat := Nat.toList_repr

/-- A list is read whether it is empty, stands on one line or takes a line for
each number. -/
theorem readValue?_writeWords (l : List UInt64) (rest : List Char) {fuel : Nat}
    (hfuel : l.length + 3 ≤ fuel) {depth : Nat} (hdepth : depth ≠ 0) :
    Toml.readValue? fuel depth (writeWords l ++ '\n' :: rest)
      = some (.array (l.map fun n => .integer n.toNat), '\n' :: rest) := by
  obtain ⟨fuel, rfl⟩ : ∃ k, fuel = k + 2 + 1 := ⟨fuel - 3, by omega⟩
  obtain _ | ⟨n, _ | ⟨m, l⟩⟩ := l
  · exact Toml.readValue?_bracket hdepth (by rw [Toml.readItems?.eq_def]; rfl)
  · have hread := Toml.readItems?_single (isKept_word n) fuel (depth - 1) ('\n' :: rest)
    rw [← writeWord_eq] at hread
    have hshape : writeWords [n] ++ '\n' :: rest = '[' :: (writeWord n ++ ']' :: '\n' :: rest) := by
      simp [writeWords]
    rw [hshape]
    exact Toml.readValue?_bracket hdepth hread
  · have hkept : ∀ k ∈ (n :: m :: l).map UInt64.toNat, Toml.isKept k := by
      intro k hk
      obtain ⟨w, -, rfl⟩ := List.mem_map.1 hk
      exact isKept_word w
    have henough : ((n :: m :: l).map UInt64.toNat).length < fuel + 2 := by
      simp at hfuel ⊢
      omega
    have hread := Toml.readItems?_rows (depth - 1) ('\n' :: rest) hkept henough
    have hshape : writeWords (n :: m :: l) ++ '\n' :: rest
        = '[' :: '\n' :: (((n :: m :: l).map UInt64.toNat).flatMap fun k =>
            "    ".toList ++ Nat.toDigits 10 k ++ ",\n".toList) ++ ']' :: '\n' :: rest := by
      simp [writeWords, writeWord_eq, List.flatMap_map]
    rw [List.map_map] at hread
    rw [hshape]
    exact Toml.readValue?_bracket hdepth hread

theorem length_le_writeWords (l : List UInt64) : l.length ≤ (writeWords l).length := by
  have hrows : ∀ l : List UInt64, l.length
      ≤ (l.flatMap fun n => "    ".toList ++ writeWord n ++ ",\n".toList).length := by
    intro l
    induction l with
    | nil => exact Nat.le_refl _
    | cons n l ih =>
        simp only [List.flatMap_cons, List.length_append, List.length_cons] at ih ⊢
        have hrow : ",\n".toList.length = 2 := rfl
        omega
  obtain _ | ⟨n, _ | ⟨m, l⟩⟩ := l
  · exact Nat.zero_le _
  · simp [writeWords]
  · have hl := hrows (n :: m :: l)
    simp only [writeWords, List.length_append] at hl ⊢
    omega

/-! ### The document -/

/-- A text as an entry. -/
def textField (key : String) (s : String) (h : Toml.IsBare key) : Field where
  key := key
  text := Toml.writeText s
  value := .string s
  isBare := h
  notBlank := by
    obtain ⟨l, hl | hl⟩ := Toml.exists_quote_cons s <;> rw [hl] <;> simp <;> decide
  isRead rest := Toml.readValue?_writeText s _ _ rest

/-- A truth value as an entry. -/
def booleanField (key : String) (b : Bool) (h : Toml.IsBare key) : Field where
  key := key
  text := writeBoolean b
  value := .boolean b
  isBare := h
  notBlank := by
    intro c hc
    cases b <;> cases hc <;> decide
  isRead rest := Toml.readValue?_writeBoolean b _ _ rest

/-- A machine word as an entry. -/
def wordField (key : String) (n : UInt64) (h : Toml.IsBare key) : Field where
  key := key
  text := writeWord n
  value := .integer n.toNat
  isBare := h
  notBlank := by
    obtain ⟨c, l, hl, hc, -⟩ := Text.exists_toDigits n.toNat
    have hkey : Toml.isKeyChar c := by simp [Toml.isKeyChar, Char.isAlphanum, hc]
    rw [writeWord_eq, hl]
    rintro d ⟨⟩
    exact Toml.isLineBlank_of_isKeyChar hkey
  isRead rest := by
    rw [writeWord_eq]
    exact Toml.readValue?_toDigits (isKept_word n) (by decide) _ _ rest

/-- A list of machine words as an entry. -/
def wordsField (key : String) (l : List UInt64) (h : Toml.IsBare key) : Field where
  key := key
  text := writeWords l
  value := .array (l.map fun n => .integer n.toNat)
  isBare := h
  notBlank := by
    match l with
    | [] | [n] | n :: m :: l => intro c hc; cases hc; decide
  isRead rest := by
    have hlength := length_le_writeWords l
    refine readValue?_writeWords l rest ?_ (by decide)
    rw [List.length_append, List.length_cons]
    omega

/-- The settings as tables. -/
def groups (s : Settings) : List Group :=
  [{ name := "api"
     fields := [textField "base_url" s.agent.baseUrl (by decide),
       textField "connect_timeout" s.agent.connectTimeout.text (by decide),
       textField "request_timeout" s.agent.requestTimeout.text (by decide),
       booleanField "accept_invalid_certs" s.agent.acceptInvalidCerts (by decide)]
     isBare := by decide
     nodup := (by decide : ["base_url", "connect_timeout", "request_timeout",
       "accept_invalid_certs"].Nodup) },
   { name := "collector"
     fields := [textField "poll_interval" s.pollInterval.text (by decide)]
     isBare := by decide
     nodup := (by decide : ["poll_interval"].Nodup) },
   { name := "table"
     fields := [wordField "page_size" s.table.pageSize (by decide),
       wordsField "page_size_options" s.table.pageSizeOptions (by decide)]
     isBare := by decide
     nodup := (by decide : ["page_size", "page_size_options"].Nodup) },
   { name := "logging"
     fields :=
       [textField "level" s.log.level (by decide), textField "log_dir" s.log.dir (by decide)]
     isBare := by decide
     nodup := (by decide : ["level", "log_dir"].Nodup) }]

/-- The settings are written as these tables. -/
theorem write_eq (s : Settings) : s.write = String.ofList (Toml.documentText s.groups) := by
  refine congrArg String.ofList ?_
  have htext : ∀ key t h, (textField key t h).line = line key (Toml.writeText t) :=
    fun _ _ _ => rfl
  have hboolean : ∀ key b h, (booleanField key b h).line = line key (writeBoolean b) :=
    fun _ _ _ => rfl
  have hword : ∀ key n h, (wordField key n h).line = line key (writeWord n) := fun _ _ _ => rfl
  have hwords : ∀ key l h, (wordsField key l h).line = line key (writeWords l) := fun _ _ _ => rfl
  simp only [groups, Toml.documentText, Group.text, List.flatMap_cons, List.flatMap_nil, htext,
    hboolean, hword, hwords, writeDuration, List.append_assoc, List.append_nil, List.cons_append]
  rfl

theorem word?_toNat (n : UInt64) : word? (.integer n.toNat) = some n := by
  have hn : n.toNat < Number.wordLimit := n.toNat_lt
  simp [word?, hn]

theorem words?_map (l : List UInt64) :
    words? (.array (l.map fun n => .integer n.toNat)) = some l := by
  simp only [words?]
  induction l with
  | nil => rfl
  | cons n l ih => simp [word?_toNat, ih]

theorem duration?_text (d : Duration) : duration? (.string d.text) = some d :=
  Duration.parse?_text d

/-- The settings come back from their tables. -/
theorem ofEntries?_groups (s : Settings) : ofEntries? (s.groups.map Group.entry) = some s := by
  have hagent : agent? (.table [("base_url", .string s.agent.baseUrl),
      ("connect_timeout", .string s.agent.connectTimeout.text),
      ("request_timeout", .string s.agent.requestTimeout.text),
      ("accept_invalid_certs", .boolean s.agent.acceptInvalidCerts)]) = some s.agent := by
    simp [agent?, groupFields?, Toml.entry?, text?, duration?_text, boolean?]
  have hcollector : collector? (.table [("poll_interval", .string s.pollInterval.text)])
      = some s.pollInterval := by
    simp [collector?, groupFields?, Toml.entry?, duration?_text]
  have htable : table? (.table [("page_size", .integer s.table.pageSize.toNat),
      ("page_size_options", .array (s.table.pageSizeOptions.map fun n => .integer n.toNat))])
      = some s.table := by
    simp [table?, groupFields?, Toml.entry?, word?_toNat, words?_map]
  have hlog : log? (.table [("level", .string s.log.level), ("log_dir", .string s.log.dir)])
      = some s.log := by
    simp [log?, groupFields?, Toml.entry?, text?]
  simp [ofEntries?, group?, groups, Group.entry, Field.entry, textField, booleanField, wordField,
    wordsField, Toml.entry?, hagent, hcollector, htable, hlog]

/-- The text of settings is a document that holds them. -/
theorem ofEntries?_write (s : Settings) : (Toml.read? s.write).bind ofEntries? = some s := by
  have hread : Toml.read? s.write = some (s.groups.map Group.entry) := by
    rw [write_eq]
    exact Toml.read?_document (by decide : ["api", "collector", "table", "logging"].Nodup)
  rw [hread, Option.bind_some, ofEntries?_groups]

/-! ### Back again -/

/-- **Settings are read back from their text**, whatever they are. -/
theorem parse_write (s : Settings) : parse s.write = .ok s := by
  rw [parse, ofEntries?_write]

/-- A file that settings were saved to holds them, and stays as it is. -/
theorem read_save {s : Settings} {file written : File} (h : s.save file = .ok written)
    (path : String) : read path written = .ok (s, written) := by
  have hwritten : written = .bytes s.write.toUTF8.toList := by
    cases file <;> cases h <;> rfl
  rw [hwritten, read, Text.readStrict?_toUTF8]
  simp only [parse, ofEntries?_write]
  rfl

end Settings

end VmAssessment
