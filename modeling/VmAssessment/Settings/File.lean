/-
VmAssessment/Settings/File.lean

The settings file.  Loading writes the defaults where there is no file yet,
and refuses settings that make no sense after the environment had its say.
-/
import VmAssessment.Settings.Text
import VmAssessment.Text.Utf8

namespace VmAssessment

namespace Settings

/-- What stands at the place of the settings file. -/
inductive File
  /-- Nothing; the file can be written. -/
  | absent
  /-- Nothing, and nothing can be written there. -/
  | blocked (detail : String)
  /-- Something that cannot be read. -/
  | unreadable (detail : String)
  | bytes (content : List UInt8)
deriving DecidableEq, Repr

/-- The file with settings written to it. -/
def save (s : Settings) : File → Except Fault File
  | .blocked detail | .unreadable detail => .error (.io detail)
  | _ => .ok (.bytes s.write.toUTF8.toList)

/-- The settings in a file, before the environment, and the file
afterwards. -/
def read (path : String) (file : File) : Except Fault (Settings × File) :=
  match file with
  | .absent | .blocked _ => do return ({}, ← save {} file)
  | .unreadable detail => .error (.settingsFile path detail)
  | .bytes content =>
    match Text.readStrict? content with
    | none => .error (.settingsFile path "stream did not contain valid UTF-8")
    | some text => do return (← parse text, file)

/-- The settings to use, and the file afterwards. -/
def load (path : String) (baseUrl : Option String) (file : File) :
    Except Fault Settings × File :=
  match read path file with
  | .error fault => (.error fault, file)
  | .ok (settings, file) =>
    let settings := settings.withEnvironment baseUrl
    match settings.fault? with
    | some fault => (.error fault.toFault, file)
    | none => (.ok settings, file)

end Settings

end VmAssessment
