/-
VmAssessment/Toml/Reader.lean

Reading TOML documents.  Lines define tables and entries; a definition may
extend what the lines before it defined, but only as far as those left it
open.  Each table therefore keeps how it came about until the document is
read to its end.
-/
import VmAssessment.Toml.Scalar

namespace VmAssessment.Toml

/-! ### Blanks and keys -/

/-- A blank within a line. -/
def isLineBlank (c : Char) : Bool := c == ' ' || c == '\t'

/-- What follows the blanks of a line. -/
def skipLineBlanks (cs : List Char) : List Char := cs.dropWhile isLineBlank

/-- What follows a comment, or the same if there is none. -/
def skipComment? : List Char → Option (List Char)
  | '#' :: rest =>
    let text := rest.takeWhile isPlain
    let rest := rest.drop text.length
    match rest with
    | [] | '\n' :: _ | '\r' :: '\n' :: _ => some rest
    | _ => none
  | cs => some cs

/-- What follows blanks, line breaks and comments. -/
def skipSpace? (fuel : Nat) (cs : List Char) : Option (List Char) :=
  match fuel with
  | 0 => some cs
  | fuel + 1 =>
    match cs with
    | ' ' :: rest | '\t' :: rest | '\n' :: rest | '\r' :: '\n' :: rest => skipSpace? fuel rest
    | '#' :: _ => do skipSpace? fuel (← skipComment? cs)
    | cs => some cs

/-- The next line, if nothing but a comment is left of this one. -/
def endLine? (cs : List Char) : Option (List Char) := do
  match ← skipComment? (skipLineBlanks cs) with
  | [] => return []
  | '\n' :: rest | '\r' :: '\n' :: rest => return rest
  | _ => none

/-- Characters of keys without quotes. -/
def isKeyChar (c : Char) : Bool := c.isAlphanum || c == '_' || c == '-'

/-- One part of a key. -/
def readKeyPart? (cs : List Char) : Option (String × List Char) :=
  match readShortText? cs with
  | some (key, rest) => some (key, rest)
  | none =>
    let word := cs.takeWhile isKeyChar
    if word.isEmpty then none else some (String.ofList word, cs.drop word.length)

/-- A key: parts with dots between them, blanks around the dots allowed. -/
def readKey? (fuel : Nat) (cs : List Char) : Option (List String × List Char) :=
  match fuel with
  | 0 => none
  | fuel + 1 => do
    let (part, rest) ← readKeyPart? (skipLineBlanks cs)
    match skipLineBlanks rest with
    | '.' :: more =>
      let (parts, rest) ← readKey? fuel more
      return (part :: parts, rest)
    | rest => return ([part], rest)

/-! ### Tables under construction -/

/-- How a table came about. -/
inductive Origin
  /-- Named on the way to a table that a header defined. -/
  | implied
  /-- Defined by a header. -/
  | header
  /-- Defined by a key with dots. -/
  | dotted
deriving DecidableEq, Repr

/-- An entry under construction. -/
inductive Draft
  | value (v : Toml)
  | table (origin : Origin) (entries : List (String × Draft))
  /-- Tables defined by headers in double brackets, the last one first. -/
  | tables (list : List (List (String × Draft)))

/-- The entries of a table under construction, in order. -/
abbrev Entries := List (String × Draft)

/-- Replaces an entry, or adds it last. -/
def setEntry (entries : Entries) (key : String) (d : Draft) : Entries :=
  if entries.any (·.1 == key) then entries.map fun (k, x) => if k == key then (k, d) else (k, x)
  else entries ++ [(key, d)]

/-- The entry of a key. -/
def draft? (entries : Entries) (key : String) : Option Draft :=
  (entries.find? (·.1 == key)).map (·.2)

/-- Defines the value of a key; parts before the last name tables that only
such keys have defined. -/
def define? (v : Toml) : List String → Entries → Option Entries
  | [], _ => none
  | [key], entries =>
    if (draft? entries key).isSome then none else some (setEntry entries key (.value v))
  | key :: rest, entries =>
    match draft? entries key with
    | none => (define? v rest []).map fun inner => setEntry entries key (.table .dotted inner)
    | some (.table .dotted inner) =>
      (define? v rest inner).map fun inner => setEntry entries key (.table .dotted inner)
    | some _ => none

/-- Changes the table that the parts of a header lead to, going into the
last table of each list. -/
def within? (change : Entries → Option Entries) : List String → Entries → Option Entries
  | [], entries => change entries
  | key :: rest, entries =>
    match draft? entries key with
    | none => (within? change rest []).map fun inner => setEntry entries key (.table .implied inner)
    | some (.table origin inner) =>
      (within? change rest inner).map fun inner => setEntry entries key (.table origin inner)
    | some (.tables (last :: before)) =>
      (within? change rest last).map fun last => setEntry entries key (.tables (last :: before))
    | some _ => none

/-- Opens the table of a header. -/
def openTable? (key : String) (entries : Entries) : Option Entries :=
  match draft? entries key with
  | none => some (setEntry entries key (.table .header []))
  | some (.table .implied inner) => some (setEntry entries key (.table .header inner))
  | some _ => none

/-- Opens a further table of a header in double brackets. -/
def openItem? (key : String) (entries : Entries) : Option Entries :=
  match draft? entries key with
  | none => some (setEntry entries key (.tables [[]]))
  | some (.tables list) => some (setEntry entries key (.tables ([] :: list)))
  | some _ => none

mutual

/-- The finished value. -/
def Draft.finish : Draft → Toml
  | .value v => v
  | .table _ entries => .table (finishEntries entries)
  | .tables list => .array (finishTables list).reverse

/-- The finished entries of a table. -/
def finishEntries : List (String × Draft) → List (String × Toml)
  | [] => []
  | (k, d) :: rest => (k, d.finish) :: finishEntries rest

/-- The finished tables of a list. -/
def finishTables : List (List (String × Draft)) → List Toml
  | [] => []
  | entries :: rest => .table (finishEntries entries) :: finishTables rest

end

/-! ### Values -/

/-- How deep values may be nested. -/
def maxDepth : Nat := 80

mutual

/-- A value; `depth` levels of nesting are left. -/
def readValue? (fuel depth : Nat) (cs : List Char) : Option (Toml × List Char) :=
  match fuel with
  | 0 => none
  | fuel + 1 =>
    match cs with
    | '"' :: _ | '\'' :: _ => (readText? cs).map fun (s, rest) => (.string s, rest)
    | '[' :: rest => do
      if depth = 0 then none
      let (items, rest) ← readItems? fuel (depth - 1) rest
      return (.array items, rest)
    | '\x7b' :: rest => do
      if depth = 0 then none
      let (entries, rest) ← readInline? fuel (depth - 1) [] rest
      return (.table (finishEntries entries), rest)
    | cs => readScalar? cs

/-- The rest of an array after its bracket or a comma. -/
def readItems? (fuel depth : Nat) (cs : List Char) : Option (List Toml × List Char) :=
  match fuel with
  | 0 => none
  | fuel + 1 => do
    match ← skipSpace? cs.length cs with
    | ']' :: rest => return ([], rest)
    | cs =>
      let (v, rest) ← readValue? fuel depth cs
      match ← skipSpace? rest.length rest with
      | ',' :: rest =>
        let (vs, rest) ← readItems? fuel depth rest
        return (v :: vs, rest)
      | ']' :: rest => return ([v], rest)
      | _ => none

/-- The rest of an inline table after its brace or a comma. -/
def readInline? (fuel depth : Nat) (entries : Entries) (cs : List Char) :
    Option (Entries × List Char) :=
  match fuel with
  | 0 => none
  | fuel + 1 => do
    match ← skipSpace? cs.length cs with
    | '\x7d' :: rest => return (entries, rest)
    | cs =>
      let (key, rest) ← readKey? (cs.length + 1) cs
      let '=' :: rest := rest | none
      let (v, rest) ← readValue? fuel depth (skipLineBlanks rest)
      let entries ← define? v key entries
      match ← skipSpace? rest.length rest with
      | ',' :: rest => readInline? fuel depth entries rest
      | '\x7d' :: rest => return (entries, rest)
      | _ => none

end

/-! ### Documents -/

/-- A document under construction: its entries and the table that the last
header named. -/
structure Document where
  root : Entries := []
  current : List String := []

/-- A header in brackets, after the first one. -/
def readHeader? (doc : Document) (cs : List Char) : Option (Document × List Char) := do
  match cs with
  | '[' :: rest =>
    let (key, rest) ← readKey? (rest.length + 1) rest
    let ']' :: ']' :: rest := rest | none
    let last ← key.getLast?
    let root ← within? (openItem? last) key.dropLast doc.root
    return (⟨root, key⟩, rest)
  | rest =>
    let (key, rest) ← readKey? (rest.length + 1) rest
    let ']' :: rest := rest | none
    let last ← key.getLast?
    let root ← within? (openTable? last) key.dropLast doc.root
    return (⟨root, key⟩, rest)

/-- An entry of the current table. -/
def readEntry? (doc : Document) (cs : List Char) : Option (Document × List Char) := do
  let (key, rest) ← readKey? (cs.length + 1) cs
  let '=' :: rest := rest | none
  let rest := skipLineBlanks rest
  let (v, rest) ← readValue? (2 * rest.length + 2) maxDepth rest
  let root ← within? (define? v key) doc.current doc.root
  return ({ doc with root }, rest)

/-- The lines of a document. -/
def readLines? (fuel : Nat) (doc : Document) (cs : List Char) : Option Document :=
  match fuel with
  | 0 => none
  | fuel + 1 =>
    match skipLineBlanks cs with
    | [] => some doc
    | '[' :: rest => do
      let (doc, rest) ← readHeader? doc rest
      readLines? fuel doc (← endLine? rest)
    | c :: rest =>
      if c == '#' || c == '\n' || c == '\r' then do
        readLines? fuel doc (← endLine? (c :: rest))
      else do
        let (doc, rest) ← readEntry? doc (c :: rest)
        readLines? fuel doc (← endLine? rest)

/-- The entries of a document; a byte order mark in front is skipped. -/
def read? (s : String) : Option (List (String × Toml)) :=
  let cs := match s.toList with
    | '\ufeff' :: rest => rest
    | cs => cs
  (readLines? (cs.length + 1) {} cs).map fun doc => finishEntries doc.root

end VmAssessment.Toml
