/-
VmAssessment/Login.lean

The login form.  It is checked before any request: every field must be
filled in, and the URL must name a host that is reached over http or https.
-/
import VmAssessment.Fault
import VmAssessment.Session.Basic
import VmAssessment.Text.Blank
import VmAssessment.Url.Parser

namespace VmAssessment

/-- The fields of the login form. -/
inductive LoginField
  | url | username | password
deriving DecidableEq, Repr, Inhabited

namespace LoginField

/-- Every field, from top to bottom. -/
def all : List LoginField := [.url, .username, .password]

/-- The field below, round to the top. -/
def next : LoginField → LoginField
  | .url => .username
  | .username => .password
  | .password => .url

/-- The field above, round to the bottom. -/
def prev : LoginField → LoginField
  | .url => .password
  | .username => .url
  | .password => .username

/-- The field's caption. -/
def label : LoginField → String
  | .url => "vCenter URL"
  | .username => "Username"
  | .password => "Password"

/-- The field's name in messages. -/
def name : LoginField → String
  | .url => "url"
  | .username => "username"
  | .password => "password"

/-- The field's name in diagnostics. -/
def diagnostic : LoginField → String
  | .url => "Url"
  | .username => "Username"
  | .password => "Password"

end LoginField

/-- Why a form is refused. -/
inductive LoginFault
  | blank (field : LoginField)
  | badUrl (fault : Url.ParseFault)
  | wrongScheme (scheme : String)
  | noHost
deriving DecidableEq, Repr

namespace LoginFault

/-- The field that is at fault. -/
def field : LoginFault → LoginField
  | .blank field => field
  | _ => .url

/-- What is wrong with it. -/
def detail : LoginFault → String
  | .blank _ => "must not be empty"
  | .badUrl fault => fault.message
  | .wrongScheme scheme => "unsupported scheme '" ++ scheme ++ "'"
  | .noHost => "missing host"

/-- The refusal as a fault of the console. -/
def toFault (f : LoginFault) : Fault := .badCredentials f.field.name f.detail

end LoginFault

/-- Credentials in a diagnostic; the password does not appear. -/
def Credentials.diagnostic (c : Credentials) : String :=
  "Credentials \x7b url: " ++ Text.quote c.url ++ ", username: " ++ Text.quote c.username
    ++ ", password: " ++ Text.quote "<redacted>" ++ " \x7d"

/-- The login form. -/
structure LoginForm where
  url : String := ""
  username : String := ""
  password : String := ""
  focus : LoginField := .url
  /-- Why the form was refused last, until it is edited. -/
  validation : Option String := none
deriving DecidableEq, Repr, Inhabited

namespace LoginForm

/-- What is typed in a field. -/
def value (f : LoginForm) : LoginField → String
  | .url => f.url
  | .username => f.username
  | .password => f.password

/-- Puts a text into a field. -/
def setValue (f : LoginForm) (field : LoginField) (text : String) : LoginForm :=
  match field with
  | .url => { f with url := text }
  | .username => { f with username := text }
  | .password => { f with password := text }

/-- Types a character into the focused field. -/
def insert (f : LoginForm) (c : Char) : LoginForm :=
  { f.setValue f.focus ((f.value f.focus).push c) with validation := none }

/-- Deletes the last character of the focused field; false if it is empty. -/
def delete (f : LoginForm) : LoginForm × Bool :=
  let text := f.value f.focus
  if text.isEmpty then (f, false)
  else
    ({ f.setValue f.focus (String.ofList text.toList.dropLast) with validation := none }, true)

/-- Moves the focus down. -/
def focusNext (f : LoginForm) : LoginForm := { f with focus := f.focus.next }

/-- Moves the focus up. -/
def focusPrev (f : LoginForm) : LoginForm := { f with focus := f.focus.prev }

/-- A field as it is shown; of the password only the length is. -/
def shown (f : LoginForm) : LoginField → String
  | .password => String.ofList (List.replicate f.password.length '•')
  | field => f.value field

/-- Drops the password once it has been handed to a request. -/
def clearPassword (f : LoginForm) : LoginForm := { f with password := "" }

/-- Checks a URL: it must parse, be one of http or https, and have a host. -/
def urlFault? (url : String) : Option LoginFault :=
  match Url.parse url with
  | .error fault => some (.badUrl fault)
  | .ok parsed =>
    if !(parsed.scheme == "http" || parsed.scheme == "https") then
      some (.wrongScheme parsed.scheme)
    else if parsed.hostText?.isNone then some .noHost
    else none

/-- The credentials that the form holds, blanks around URL and user name
dropped. -/
def credentials (f : LoginForm) : Except LoginFault Credentials :=
  let url := Text.trim f.url
  let username := Text.trim f.username
  if url.isEmpty then .error (.blank .url)
  else
    match urlFault? url with
    | some fault => .error fault
    | none =>
      if username.isEmpty then .error (.blank .username)
      else if f.password.isEmpty then .error (.blank .password)
      else .ok ⟨url, username, f.password⟩

/-- Checks the form and keeps why it is refused. -/
def submit (f : LoginForm) : LoginForm × Except LoginFault Credentials :=
  match f.credentials with
  | .ok c => ({ f with validation := none }, .ok c)
  | .error fault => ({ f with validation := some fault.toFault.message }, .error fault)

/-- The form in a diagnostic; of the password only the length appears. -/
def diagnostic (f : LoginForm) : String :=
  "LoginForm \x7b url: " ++ Text.quote f.url ++ ", username: " ++ Text.quote f.username
    ++ ", password_len: " ++ toString f.password.length ++ ", focus: " ++ f.focus.diagnostic
    ++ " \x7d"

end LoginForm

end VmAssessment
