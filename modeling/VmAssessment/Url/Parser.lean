/-
VmAssessment/Url/Parser.lean

Reading URLs, alone or relative to a base.  Blanks at the ends and line
breaks anywhere are dropped first; then the parts are taken off from left to
right: scheme, authority, path, query, fragment.
-/
import VmAssessment.Url.Basic

namespace VmAssessment

namespace Url

/-- The characters without control characters and spaces at both ends, and
without tabs and line breaks. -/
def clean (s : String) : List Char :=
  let atEnd (c : Char) : Bool := c.toNat ≤ 0x20
  let trimmed := ((s.toList.dropWhile atEnd).reverse.dropWhile atEnd).reverse
  trimmed.filter fun c => !(c == '\t' || c == '\n' || c == '\r')

/-- A scheme, lowered, and what follows its colon. -/
def takeScheme? (cs : List Char) : Option (String × List Char) :=
  let isPart (c : Char) : Bool := c.isAlphanum || c == '+' || c == '-' || c == '.'
  match cs with
  | c :: _ =>
    if c.isAlpha then
      match cs.dropWhile isPart with
      | ':' :: rest => some (String.ofList ((cs.takeWhile isPart).map Char.toLower), rest)
      | _ => none
    else none
  | [] => none

/-- A slash, or a backslash where it is as good as one. -/
def isSlash (special : Bool) (c : Char) : Bool := c == '/' || (special && c == '\\')

/-- The end of an authority or a host. -/
def endsHost (special : Bool) (c : Char) : Bool := isSlash special c || c == '?' || c == '#'

/-! ### Query and fragment -/

/-- Takes a fragment. -/
def withFragment (url : Url) : List Char → Url
  | '#' :: rest => { url with fragment := some (encode inFragmentSet rest) }
  | _ => url

/-- Takes a query and a fragment. -/
def withQuery (url : Url) : List Char → Url
  | '?' :: rest =>
    let query := rest.takeWhile (· != '#')
    { url with query := some (encode (inQuerySet url.isSpecial) query) }.withFragment
      (rest.drop query.length)
  | rest => url.withFragment rest

/-! ### Paths -/

/-- A letter and a colon or bar: the name of a drive. -/
def isDrive : List Char → Bool
  | [a, b] => a.isAlpha && (b == ':' || b == '|')
  | _ => false

/-- A drive with a colon. -/
def isPlainDrive : List Char → Bool
  | [a, ':'] => a.isAlpha
  | _ => false

/-- Whether a path starts with a drive, as far as its first segment. -/
def startsWithDrive : List Char → Bool
  | a :: b :: rest =>
    isDrive [a, b] && (rest.head?.all fun c => c == '/' || c == '\\' || c == '?' || c == '#')
  | _ => false

/-- Lower-cased, with encoded dots as dots. -/
def plainDots : List Char → List Char
  | '%' :: '2' :: e :: rest =>
    if e == 'e' || e == 'E' then '.' :: plainDots rest else '%' :: '2' :: plainDots (e :: rest)
  | c :: rest => c :: plainDots rest
  | [] => []

/-- The segments with the last one dropped, unless it is a drive alone. -/
def shorten (file : Bool) (segments : List (List Char)) : List (List Char) :=
  match segments with
  | [one] => if file && isPlainDrive one then [one] else []
  | segments => segments.dropLast

/-- Adds a segment as written to the segments before it; `last` says that no
slash follows. -/
def pushSegment (file last : Bool) (segments : List (List Char)) (segment : List Char) :
    List (List Char) :=
  match plainDots segment with
  | ['.', '.'] => let up := shorten file segments; if last then up ++ [[]] else up
  | ['.'] => if last then segments ++ [[]] else segments
  | _ =>
    let segment := encode inPathSet segment
    let segment :=
      if file && segments.isEmpty && isDrive segment then segment.take 1 ++ [':'] else segment
    segments ++ [segment]

/-- Adds the segments of a path. -/
def pushSegments (file special : Bool) (segments : List (List Char)) (segment : List Char) :
    List Char → List (List Char)
  | [] => pushSegment file true segments segment.reverse
  | c :: rest =>
    if isSlash special c then
      pushSegments file special (pushSegment file false segments segment.reverse) [] rest
    else pushSegments file special segments (c :: segment) rest

/-- The segments of a file's path, which starts with one slash. -/
def trimFile (segments : List (List Char)) : List (List Char) :=
  match segments.dropWhile List.isEmpty with
  | [] => [[]]
  | segments => segments

/-- Takes a path that continues the segments there are, and what follows. -/
def withPath (url : Url) (segments : List (List Char)) (cs : List Char) : Url :=
  let path := cs.takeWhile fun c => c != '?' && c != '#'
  let file := url.scheme == "file"
  let segments := pushSegments file url.isSpecial segments [] path
  { url with path := .segments (if file then trimFile segments else segments) }.withQuery
    (cs.drop path.length)

/-- Takes the path after an authority.  A special URL always has one. -/
def withPathStart (url : Url) (cs : List Char) : Url :=
  match cs with
  | [] => if url.isSpecial then url.withPath [] [] else url
  | c :: rest =>
    if isSlash url.isSpecial c then url.withPath [] rest
    else if !url.isSpecial && (c == '?' || c == '#') then url.withQuery cs
    else url.withPath [] cs

/-- Takes a path that is one text. -/
def withOpaquePath (url : Url) (cs : List Char) : Url :=
  let path := cs.takeWhile fun c => c != '?' && c != '#'
  { url with path := .opaqueText (encode isControl path) }.withQuery (cs.drop path.length)

/-! ### Authorities -/

/-- User name and password up to the last `@` of an authority, and what
follows it. -/
def splitUser (authority : List Char) : List Char × List Char :=
  let tail := authority.reverse.takeWhile (· != '@')
  if tail.length = authority.length then ([], authority)
  else (authority.take (authority.length - tail.length - 1), tail.reverse)

/-- Takes a user name and a password. -/
def withUser (url : Url) (user : List Char) : Url :=
  let name := user.takeWhile (· != ':')
  { url with username := encode inUserSet name
             password := encode inUserSet (user.drop (name.length + 1)) }

/-- The host of an authority up to its port; brackets protect colons. -/
def hostLength (bracketed : Bool) : List Char → Nat
  | [] => 0
  | c :: rest =>
    if c == ':' && !bracketed then 0
    else hostLength (if c == '[' then true else if c == ']' then false else bracketed) rest + 1

/-- The port after a host: decimal, below 65536; the scheme's own is left
out. -/
def port? (scheme : String) (digits : List Char) : Except ParseFault (Option Nat) :=
  match ofDigits? 10 digits with
  | none => .error .badPort
  | some n =>
    if 65535 < n then .error .badPort
    else .ok (if digits.isEmpty || defaultPort? scheme == some n then none else some n)

/-- Takes host and port. -/
def withHost (url : Url) (cs : List Char) : Except ParseFault Url := do
  let length := hostLength false cs
  let name := cs.take length
  let rest := cs.drop length
  if name.isEmpty && (url.isSpecial || !rest.isEmpty) then throw .emptyHost
  let host ← if url.isSpecial then Host.parse name else Host.parseOpaque name
  let port ← port? url.scheme (rest.drop 1)
  return { url with host := some host, port }

/-- Takes an authority and all that follows. -/
def withAuthority (url : Url) (cs : List Char) : Except ParseFault Url := do
  let authority := cs.takeWhile fun c => !endsHost url.isSpecial c
  let (user, host) := splitUser authority
  -- A lone `@` at the very end is as good as nothing.
  if authority.length != host.length && host.isEmpty && cs.length != 1 then throw .emptyHost
  let url ← (url.withUser user).withHost host
  return url.withPathStart (cs.drop authority.length)

/-! ### Files -/

/-- The host of a file URL and what follows it; the local host is empty. -/
def withFileHost (url : Url) (cs : List Char) : Except ParseFault Url := do
  let name := cs.takeWhile fun c => !endsHost true c
  if isDrive name then return { url with host := some .empty }.withPath [] cs
  let host ← if name.isEmpty then pure Host.empty else Host.parse name
  let host := if host = .domain "localhost" then .empty else host
  let url := { url with host := some host }.withPathStart (cs.drop name.length)
  -- A drive is on this machine, whatever the host.
  match url.path with
  | .segments (first :: _) =>
    return if isPlainDrive first then { url with host := some .empty } else url
  | _ => return url

/-- A file URL after its scheme; `base` is a file URL it may be relative to. -/
def parseFile (base : Option Url) (cs : List Char) : Except ParseFault Url := do
  let url : Url := { scheme := "file", host := some .empty }
  match cs with
  | c :: rest =>
    if isSlash true c then
      match rest with
      | d :: rest' =>
        if isSlash true d then return ← url.withFileHost rest'
      | [] => pure ()
      match base with
      | some b =>
        let drive := match b.path with
          | .segments (first :: _) => if isPlainDrive first then [first] else []
          | _ => []
        if startsWithDrive rest then return url.withPath [] rest
        return { url with host := b.host }.withPath drive rest
      | none => return url.withPath [] rest
    else
      match base with
      | none => return url.withPath [] cs
      | some b =>
        if c == '?' then return { b with query := none, fragment := none }.withQuery cs
        else if c == '#' then return { b with fragment := none }.withFragment cs
        else if startsWithDrive cs then return url.withPath [] cs
        else
          match b.path with
          | .segments list =>
            return { b with query := none, fragment := none }.withPath (shorten true list) cs
          | .opaqueText _ => return url.withPath [] cs
  | [] =>
    match base with
    | some b => return { b with fragment := none }
    | none => return url.withPath [] []

/-! ### Whole URLs -/

/-- A URL after its scheme. -/
def parseAfterScheme (scheme : String) (base : Option Url) (cs : List Char) :
    Except ParseFault Url :=
  let url : Url := { scheme }
  if scheme == "file" then parseFile (base.filter (·.scheme == "file")) cs
  else if isSpecialScheme scheme then url.withAuthority (cs.dropWhile (isSlash true))
  else
    match cs with
    | '/' :: '/' :: rest => url.withAuthority rest
    | '/' :: rest => .ok (url.withPath [] rest)
    | cs => .ok (url.withOpaquePath cs)

/-- The URL that a text without a scheme names, seen from a base. -/
def parseRelative (base : Url) (cs : List Char) : Except ParseFault Url :=
  let bare : Url := { base with query := none, fragment := none }
  match cs with
  | [] => .ok { base with fragment := none }
  | '?' :: _ => .ok (bare.withQuery cs)
  | '#' :: _ => .ok ({ base with fragment := none }.withFragment cs)
  | c :: rest =>
    if isSlash base.isSpecial c then
      match rest with
      | d :: rest' =>
        if isSlash base.isSpecial d then
          ({ scheme := base.scheme } : Url).withAuthority
            (if base.isSpecial then rest'.dropWhile (isSlash true) else rest')
        else .ok (bare.withPath [] rest)
      | [] => .ok (bare.withPath [] [])
    else
      match base.path with
      | .segments list => .ok (bare.withPath (shorten (base.scheme == "file") list) cs)
      | .opaqueText _ => .error .relativeWithOpaqueBase

/-- The URL that a text names, seen from a base if there is one. -/
def parseFrom (base : Option Url) (s : String) : Except ParseFault Url :=
  let cs := clean s
  match takeScheme? cs, base with
  | some (scheme, rest), some b =>
    -- A special scheme without an authority may repeat the base's.
    if scheme == b.scheme && isSpecialScheme scheme && scheme != "file"
        && (rest.takeWhile (isSlash true)).length < 2 then
      parseRelative b rest
    else parseAfterScheme scheme base rest
  | some (scheme, rest), none => parseAfterScheme scheme none rest
  | none, none => .error .relativeWithoutBase
  | none, some b =>
    match cs with
    | '#' :: _ => .ok ({ b with fragment := none }.withFragment cs)
    | cs =>
      if b.hasOpaquePath then .error .relativeWithOpaqueBase
      else if b.scheme == "file" then parseFile (some b) cs
      else parseRelative b cs

/-- The URL that a text names. -/
def parse (s : String) : Except ParseFault Url := parseFrom none s

/-- The URL that a reference names, seen from a base. -/
def join (base : Url) (reference : String) : Except ParseFault Url :=
  parseFrom (some base) reference

end Url

end VmAssessment
