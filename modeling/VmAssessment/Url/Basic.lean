/-
VmAssessment/Url/Basic.lean

URLs by their parts, and their written form.
-/
import VmAssessment.Url.Host

namespace VmAssessment

namespace Url

/-- The path of a URL: one text, or segments each after a slash. -/
inductive Path
  | opaqueText (text : List Char)
  | segments (list : List (List Char))
deriving DecidableEq, Repr

end Url

/-- A URL.  There is no host at all in `mailto:` and the like, which is not
the same as an empty one. -/
structure Url where
  scheme : String
  username : List Char := []
  password : List Char := []
  host : Option Url.Host := none
  port : Option Nat := none
  path : Url.Path := .segments []
  query : Option (List Char) := none
  fragment : Option (List Char) := none
deriving DecidableEq, Repr

namespace Url

/-- The port a special scheme implies. -/
def defaultPort? : String → Option Nat
  | "http" | "ws" => some 80
  | "https" | "wss" => some 443
  | "ftp" => some 21
  | _ => none

/-- Schemes with rules of their own: the host is a name or an address, and a
backslash is as good as a slash. -/
def isSpecialScheme (scheme : String) : Bool := (defaultPort? scheme).isSome || scheme == "file"

/-- Whether the URL's scheme is special. -/
def isSpecial (url : Url) : Bool := isSpecialScheme url.scheme

/-- Whether nothing can be resolved against the URL. -/
def hasOpaquePath (url : Url) : Bool :=
  match url.path with
  | .opaqueText _ => true
  | .segments _ => false

/-- The path as it is written. -/
def Path.chars : Path → List Char
  | .opaqueText text => text
  | .segments list => list.flatMap ('/' :: ·)

/-- The path as it is written. -/
def pathText (url : Url) : String := String.ofList url.path.chars

/-- The query as it is written. -/
def queryChars (url : Url) : List Char :=
  match url.query with
  | some q => '?' :: q
  | none => []

/-- The path and the query, which is what a request asks a host for. -/
def target (url : Url) : String := String.ofList (url.path.chars ++ url.queryChars)

/-- User name and password in front of a host. -/
def userChars (url : Url) : List Char :=
  if url.username.isEmpty && url.password.isEmpty then []
  else url.username ++ (if url.password.isEmpty then [] else ':' :: url.password) ++ ['@']

/-- What stands between the scheme and the path. -/
def authorityChars (url : Url) : List Char :=
  match url.host with
  | some host =>
    let port := match url.port with
      | some p => ':' :: (toString p).toList
      | none => []
    "//".toList ++ url.userChars ++ host.text.toList ++ port
  | none =>
    -- A path that starts with two slashes must not be taken for a host.
    match url.path with
    | .segments ([] :: _ :: _) => "/.".toList
    | _ => []

/-- The URL as it is written. -/
def text (url : Url) : String :=
  let fragment := match url.fragment with
    | some f => '#' :: f
    | none => []
  String.ofList
    (url.scheme.toList ++ ':'
      :: (url.authorityChars ++ url.path.chars ++ url.queryChars ++ fragment))

/-- The host as it is written; nothing if there is none or it is empty. -/
def hostText? (url : Url) : Option String :=
  match url.host with
  | none | some .empty => none
  | some host => some host.text

end Url

end VmAssessment
