/-
VmAssessment/Proofs/Toml/Documents.lean

Documents in the plain layout: groups with an empty line between them, each a
header and then a line for every entry.  Such a document is read back group by
group and entry by entry, whatever the values are, as long as each one is read
up to the end of its line (`read?_document`).

The reader goes line by line on a budget of lines, and what it has read so far
ends in the table under construction.  `ReadsTo` leaves the budget out: the
rest of a document is read to its end from here on.  Each line then has its
own lemma, and entries and groups are put together by induction.
-/
import VmAssessment.Proofs.Text.Runs
import VmAssessment.Toml.Reader

namespace VmAssessment.Toml

/-- A key that needs no quotes. -/
def IsBare (key : String) : Prop := key.toList ≠ [] ∧ key.toList.all isKeyChar

instance (key : String) : Decidable (IsBare key) :=
  inferInstanceAs (Decidable (_ ∧ _))

namespace IsBare

variable {key : String}

theorem isKeyChar_of_mem (h : IsBare key) : ∀ c ∈ key.toList, isKeyChar c :=
  List.all_eq_true.1 h.2

theorem exists_cons (h : IsBare key) : ∃ c l, key.toList = c :: l ∧ isKeyChar c := by
  obtain ⟨c, l, hl⟩ := List.exists_cons_of_ne_nil h.1
  exact ⟨c, l, hl, h.isKeyChar_of_mem c (hl ▸ List.mem_cons_self ..)⟩

end IsBare

/-- An entry as it is written, with the value that is read from it. -/
structure Field where
  key : String
  text : List Char
  value : Toml
  isBare : IsBare key
  notBlank : ∀ c ∈ text.head?, isLineBlank c = false
  isRead : ∀ rest,
    readValue? (2 * (text ++ '\n' :: rest).length + 2) maxDepth (text ++ '\n' :: rest)
      = some (value, '\n' :: rest)

/-- A table with a header, as it is written. -/
structure Group where
  name : String
  fields : List Field
  isBare : IsBare name
  nodup : (fields.map Field.key).Nodup

namespace Field

/-- The line of an entry. -/
def line (f : Field) : List Char := f.key.toList ++ " = ".toList ++ f.text ++ ['\n']

/-- The entry under construction. -/
def draft (f : Field) : String × Draft := (f.key, .value f.value)

/-- The entry that is read. -/
def entry (f : Field) : String × Toml := (f.key, f.value)

end Field

namespace Group

/-- The lines of a table. -/
def text (g : Group) : List Char :=
  '[' :: g.name.toList ++ "]\n".toList ++ g.fields.flatMap Field.line

/-- The table under construction. -/
def draft (g : Group) : String × Draft := (g.name, .table .header (g.fields.map Field.draft))

/-- The table that is read. -/
def entry (g : Group) : String × Toml := (g.name, .table (g.fields.map Field.entry))

end Group

/-- A document: tables with an empty line between them. -/
def documentText : List Group → List Char
  | [] => []
  | g :: gs => g.text ++ gs.flatMap fun g => '\n' :: g.text

/-! ### Entries under construction -/

section Entries

variable {entries : Entries} {key : String}

theorem draft?_of_not_mem (h : key ∉ entries.map Prod.fst) : draft? entries key = none := by
  rw [draft?, Option.map_eq_none_iff, List.find?_eq_none]
  intro p hp hkey
  exact h (List.mem_map.2 ⟨p, hp, by simpa using hkey⟩)

theorem setEntry_of_not_mem (h : key ∉ entries.map Prod.fst) (d : Draft) :
    setEntry entries key d = entries ++ [(key, d)] := by
  rw [setEntry, if_neg]
  intro hany
  obtain ⟨p, hp, hkey⟩ := List.any_eq_true.1 hany
  exact h (List.mem_map.2 ⟨p, hp, by simpa using hkey⟩)

theorem draft?_last (h : key ∉ entries.map Prod.fst) (d : Draft) :
    draft? (entries ++ [(key, d)]) key = some d := by
  have hnone : entries.find? (·.1 == key) = none := by
    simpa [draft?] using draft?_of_not_mem h
  simp [draft?, List.find?_append, hnone]

theorem setEntry_last (h : key ∉ entries.map Prod.fst) (d d' : Draft) :
    setEntry (entries ++ [(key, d)]) key d' = entries ++ [(key, d')] := by
  have hother : ∀ p ∈ entries, ¬(p.1 == key) = true := fun p hp hkey =>
    h (List.mem_map.2 ⟨p, hp, by simpa using hkey⟩)
  rw [setEntry, if_pos (by simp), List.map_append, List.map_singleton]
  simp only [beq_self_eq_true, if_true]
  refine congrArg (· ++ [(key, d')]) ?_
  exact (List.map_congr_left fun p hp => if_neg (hother p hp)).trans (List.map_id entries)

end Entries

theorem finishEntries_eq_map (entries : Entries) :
    finishEntries entries = entries.map fun p => (p.1, p.2.finish) := by
  induction entries with
  | nil => rfl
  | cons p entries ih => rw [finishEntries, ih]; rfl

theorem Group.finish_draft (g : Group) : (g.draft.1, g.draft.2.finish) = g.entry := by
  simp only [draft, entry, Draft.finish, finishEntries_eq_map, List.map_map]
  rfl

/-! ### Keys -/

section Keys

variable {key : String}

theorem skipLineBlanks_of_not_blank {c : Char} (hc : isLineBlank c = false) (rest : List Char) :
    skipLineBlanks (c :: rest) = c :: rest :=
  List.dropWhile_cons_of_neg (by simp [hc])

theorem isLineBlank_of_isKeyChar {c : Char} (hc : isKeyChar c) : isLineBlank c = false := by
  rw [Bool.eq_false_iff]
  intro hblank
  obtain rfl | rfl : c = ' ' ∨ c = '\t' := by simpa [isLineBlank] using hblank
  all_goals exact absurd hc (by decide)

theorem readKeyPart?_bare (h : IsBare key) {c : Char} (hc : isKeyChar c = false)
    (rest : List Char) : readKeyPart? (key.toList ++ c :: rest) = some (key, c :: rest) := by
  have htake : (key.toList ++ c :: rest).takeWhile isKeyChar = key.toList :=
    Text.takeWhile_run h.isKeyChar_of_mem (by simpa using hc)
  have hshort : readShortText? (key.toList ++ c :: rest) = none := by
    obtain ⟨d, l, hl, hd⟩ := h.exists_cons
    rw [hl, List.cons_append]
    unfold readShortText?
    split
    · rename_i heq; cases heq; exact absurd hd (by decide)
    · rename_i heq; cases heq; exact absurd hd (by decide)
    · rfl
  simp only [readKeyPart?, hshort, htake, List.isEmpty_eq_false_iff.2 h.1, Bool.false_eq_true,
    if_false, List.drop_left, String.ofList_toList]

/-- A bare key is read, with the blanks after it, up to what is no dot. -/
theorem readKey?_bare (h : IsBare key) {c : Char} (hc : isKeyChar c = false)
    {rest after : List Char} (hafter : skipLineBlanks (c :: rest) = after)
    (hdot : after.head? ≠ some '.') (fuel : Nat) :
    readKey? (fuel + 1) (key.toList ++ c :: rest) = some ([key], after) := by
  have hskip : skipLineBlanks (key.toList ++ c :: rest) = key.toList ++ c :: rest := by
    obtain ⟨d, l, hl, hd⟩ := h.exists_cons
    rw [hl, List.cons_append, skipLineBlanks_of_not_blank (isLineBlank_of_isKeyChar hd)]
  simp only [readKey?, hskip, readKeyPart?_bare h hc, hafter, Option.bind_eq_bind, Option.bind_some]
  split
  · rename_i heq
    exact absurd rfl hdot
  · rfl

end Keys

/-! ### What stands on a line -/

variable {rest : List Char} {root : Entries}

/-- A bare header opens a table that is not there yet. -/
theorem readHeader?_bare {name : String} {done : Entries} (hbare : IsBare name)
    (hname : name ∉ done.map Prod.fst) (current : List String) (rest : List Char) :
    readHeader? ⟨done, current⟩ (name.toList ++ ']' :: '\n' :: rest)
      = some (⟨done ++ [(name, .table .header [])], [name]⟩, '\n' :: rest) := by
  have hkey : ∀ k, readKey? (k + 1) (name.toList ++ ']' :: '\n' :: rest)
      = some ([name], ']' :: '\n' :: rest) :=
    readKey?_bare hbare (by decide) rfl (by simp)
  unfold readHeader?
  split
  · -- a second bracket would have to be the start of the name
    rename_i inner heq
    obtain ⟨d, l, hl, hd⟩ := hbare.exists_cons
    rw [hl] at heq
    cases heq
    exact absurd hd (by decide)
  · simp [hkey, within?, openTable?, draft?_of_not_mem hname, setEntry_of_not_mem hname]

/-- An entry with a new key goes into the table under construction. -/
theorem Field.readEntry?_line {name : String} {done entries : Entries} (f : Field)
    (hname : name ∉ done.map Prod.fst) (hkey : f.key ∉ entries.map Prod.fst) (rest : List Char) :
    readEntry? ⟨done ++ [(name, .table .header entries)], [name]⟩
        (f.key.toList ++ ' ' :: '=' :: ' ' :: (f.text ++ '\n' :: rest))
      = some (⟨done ++ [(name, .table .header (entries ++ [f.draft]))], [name]⟩, '\n' :: rest) := by
  have hbare : ∀ k,
      readKey? (k + 1) (f.key.toList ++ ' ' :: '=' :: ' ' :: (f.text ++ '\n' :: rest))
        = some ([f.key], '=' :: ' ' :: (f.text ++ '\n' :: rest)) :=
    readKey?_bare f.isBare (by decide) rfl (by simp)
  have hskip : skipLineBlanks (' ' :: (f.text ++ '\n' :: rest)) = f.text ++ '\n' :: rest := by
    show skipLineBlanks (f.text ++ '\n' :: rest) = f.text ++ '\n' :: rest
    cases htext : f.text with
    | nil => rfl
    | cons d text => exact skipLineBlanks_of_not_blank (f.notBlank d (by simp [htext])) _
  unfold readEntry?
  simp only [hbare, Option.bind_eq_bind, Option.bind_some, hskip, f.isRead]
  -- the table is the last one of the document, and has no such key yet
  simp [within?, define?, draft?_last hname, setEntry_last hname, draft?_of_not_mem hkey,
    setEntry_of_not_mem hkey, Field.draft]

/-! ### Lines -/

/-- Reading the rest of a document leads to these entries. -/
def Document.ReadsTo (doc : Document) (cs : List Char) (root : Entries) : Prop :=
  ∀ fuel, cs.length < fuel → (readLines? fuel doc cs).map (·.root) = some root

namespace Document.ReadsTo

variable {doc next : Document} {cs : List Char}

theorem nil (doc : Document) : doc.ReadsTo [] doc.root := by
  intro fuel hfuel
  obtain ⟨fuel, rfl⟩ : ∃ k, fuel = k + 1 := ⟨fuel - 1, by simp at hfuel; omega⟩
  rfl

/-- Each line takes one step of the budget, and there are no more lines than
characters. -/
theorem step (hline : ∀ fuel, readLines? (fuel + 1) doc cs = readLines? fuel next rest)
    (hlength : rest.length < cs.length) (h : next.ReadsTo rest root) : doc.ReadsTo cs root := by
  intro fuel hfuel
  obtain ⟨fuel, rfl⟩ : ∃ k, fuel = k + 1 := ⟨fuel - 1, by omega⟩
  rw [hline]
  exact h fuel (by omega)

/-- An empty line is skipped. -/
theorem emptyLine (h : doc.ReadsTo rest root) : doc.ReadsTo ('\n' :: rest) root :=
  step (fun _ => rfl) (Nat.lt_succ_self _) h

/-- A header opens a table that is not there yet. -/
theorem header {name : String} {done : Entries} (hbare : IsBare name)
    (hname : name ∉ done.map Prod.fst) {current : List String}
    (h : ReadsTo ⟨done ++ [(name, .table .header [])], [name]⟩ rest root) :
    ReadsTo ⟨done, current⟩ ('[' :: name.toList ++ "]\n".toList ++ rest) root := by
  have hshape : '[' :: name.toList ++ "]\n".toList ++ rest
      = '[' :: (name.toList ++ ']' :: '\n' :: rest) := by simp
  rw [hshape]
  refine step (fun fuel => ?_) (by simp; omega) h
  rw [readLines?, skipLineBlanks_of_not_blank (by decide)]
  simp only [readHeader?_bare hbare hname, Option.bind_eq_bind, Option.bind_some]
  rfl

/-- A line with a new key adds its entry to the table under construction. -/
theorem entryLine {name : String} {done entries : Entries} (hname : name ∉ done.map Prod.fst)
    (f : Field) (hkey : f.key ∉ entries.map Prod.fst)
    (h : ReadsTo ⟨done ++ [(name, .table .header (entries ++ [f.draft]))], [name]⟩ rest root) :
    ReadsTo ⟨done ++ [(name, .table .header entries)], [name]⟩ (f.line ++ rest) root := by
  obtain ⟨c, l, hl, hc⟩ := f.isBare.exists_cons
  have hshape : f.line ++ rest
      = f.key.toList ++ ' ' :: '=' :: ' ' :: (f.text ++ '\n' :: rest) := by simp [Field.line]
  have hentry := f.readEntry?_line hname hkey rest
  rw [hshape]
  refine step (fun fuel => ?_) (by simp; omega) h
  rw [hl, List.cons_append] at hentry ⊢
  rw [readLines?, skipLineBlanks_of_not_blank (isLineBlank_of_isKeyChar hc)]
  -- a line that starts as a key does is neither a header nor empty
  split
  · rename_i heq; cases heq
  · rename_i heq; cases heq; exact absurd hc (by decide)
  · rename_i heq
    cases heq
    rw [if_neg]
    · simp only [hentry, Option.bind_eq_bind, Option.bind_some]
      rfl
    · intro hmark
      obtain (rfl | rfl) | rfl : (c = '#' ∨ c = '\n') ∨ c = '\r' := by simpa using hmark
      all_goals exact absurd hc (by decide)

/-- The lines of a table add its entries in order. -/
theorem fieldLines {name : String} {done : Entries} (hname : name ∉ done.map Prod.fst) :
    ∀ (fields : List Field) (entries : Entries),
    (entries.map Prod.fst ++ fields.map Field.key).Nodup →
    ReadsTo ⟨done ++ [(name, .table .header (entries ++ fields.map Field.draft))], [name]⟩
      rest root →
    ReadsTo ⟨done ++ [(name, .table .header entries)], [name]⟩
      (fields.flatMap Field.line ++ rest) root := by
  intro fields
  induction fields with
  | nil =>
      intro entries _ h
      rwa [List.map_nil, List.append_nil] at h
  | cons f fields ih =>
      intro entries hnodup h
      have hkey : f.key ∉ entries.map Prod.fst := by
        intro hmem
        exact (List.nodup_append.1 hnodup).2.2 _ hmem _ (List.mem_cons_self ..) rfl
      rw [List.flatMap_cons, List.append_assoc]
      refine entryLine hname f hkey (ih (entries ++ [f.draft]) ?_ ?_)
      · simpa [Field.draft] using hnodup
      · simpa using h

/-- The text of a table adds the table. -/
theorem group {done : Entries} (g : Group) (hname : g.name ∉ done.map Prod.fst)
    {current : List String} (h : ReadsTo ⟨done ++ [g.draft], [g.name]⟩ rest root) :
    ReadsTo ⟨done, current⟩ (g.text ++ rest) root := by
  have hlines := fieldLines hname g.fields [] (by simpa using g.nodup) h
  rw [Group.text, List.append_assoc]
  exact header g.isBare hname hlines

/-- Further tables are added in order. -/
theorem laterGroups : ∀ (gs : List Group) {done : Entries} {current : List String},
    (done.map Prod.fst ++ gs.map Group.name).Nodup →
    ReadsTo ⟨done, current⟩ (gs.flatMap fun g => '\n' :: g.text) (done ++ gs.map Group.draft) := by
  intro gs
  induction gs with
  | nil =>
      intro done current _
      simpa using nil ⟨done, current⟩
  | cons g gs ih =>
      intro done current hnodup
      have hname : g.name ∉ done.map Prod.fst := by
        intro hmem
        exact (List.nodup_append.1 hnodup).2.2 _ hmem _ (List.mem_cons_self ..) rfl
      have hrest : ReadsTo ⟨done ++ [g.draft], [g.name]⟩ (gs.flatMap fun g => '\n' :: g.text)
          (done ++ [g.draft] ++ gs.map Group.draft) :=
        ih (by simpa [Group.draft] using hnodup)
      rw [List.append_assoc, List.singleton_append] at hrest
      rw [List.flatMap_cons, List.cons_append]
      exact emptyLine (group g hname hrest)

end Document.ReadsTo

/-- **A document in the plain layout is read back**, tables and entries in the
order they are written. -/
theorem read?_document {gs : List Group} (hnodup : (gs.map Group.name).Nodup) :
    read? (String.ofList (documentText gs)) = some (gs.map Group.entry) := by
  have hreads : Document.ReadsTo {} (documentText gs) (gs.map Group.draft) := by
    cases gs with
    | nil => exact .nil {}
    | cons g gs =>
        have hrest : Document.ReadsTo ⟨[g.draft], [g.name]⟩ (gs.flatMap fun g => '\n' :: g.text)
            ([g.draft] ++ gs.map Group.draft) :=
          .laterGroups gs (by simpa [Group.draft] using hnodup)
        exact .group g (by simp) hrest
  have hmark : ∀ rest, documentText gs ≠ '\ufeff' :: rest := by
    cases gs with
    | nil => exact nofun
    | cons g gs => simp [documentText, Group.text]
  have hlines := hreads ((documentText gs).length + 1) (Nat.lt_succ_self _)
  simp only [read?, String.toList_ofList]
  obtain ⟨doc, hdoc, hroot⟩ := Option.map_eq_some_iff.1 hlines
  rw [hdoc, Option.map_some, hroot, finishEntries_eq_map, List.map_map]
  exact congrArg some (List.map_congr_left fun g _ => g.finish_draft)

end VmAssessment.Toml
