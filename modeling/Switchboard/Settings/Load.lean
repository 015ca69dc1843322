import Switchboard.Settings.Decode
import Switchboard.Settings.Validation
import Switchboard.Text.Utf8

/-! Settings from a file: read as text, then as TOML, then checked. -/

namespace Switchboard

inductive FileContent where
  | missing
  | directory
  | bytes (content : Bytes)

inductive FileFault where
  | missing
  | directory
  | notText
  deriving DecidableEq, Repr

def FileFault.message : FileFault → String
  | .missing => "No such file or directory (os error 2)"
  | .directory => "Is a directory (os error 21)"
  | .notText => "stream did not contain valid UTF-8"

def FileFault.inspected : FileFault → String
  | .missing =>
    "Os \x7b code: 2, kind: NotFound, message: \"No such file or directory\" \x7d"
  | .directory => "Os \x7b code: 21, kind: IsADirectory, message: \"Is a directory\" \x7d"
  | .notText =>
    "Error \x7b kind: InvalidData, message: \"stream did not contain valid UTF-8\" \x7d"

inductive SettingsError where
  | file (fault : FileFault)
  | syntaxError
  | invalid (errors : List ValidationError)
  deriving DecidableEq, Repr

def SettingsError.message : SettingsError → String
  | .file fault => "IO error: " ++ fault.message
  | .syntaxError => "Parse error"
  | .invalid errors => "Validation failed: " ++ ", ".intercalate (errors.map (·.message))

def SettingsError.inspected : SettingsError → String
  | .file fault => "Io(" ++ fault.inspected ++ ")"
  | .syntaxError => "Parse"
  | .invalid errors => "Validation([" ++ ", ".intercalate (errors.map (·.inspected)) ++ "])"

def FileContent.text? : FileContent → Except FileFault String
  | .missing => .error .missing
  | .directory => .error .directory
  | .bytes content =>
    match Text.ofBytes? content with
    | some text => .ok text
    | none => .error .notText

namespace Settings

def validate (settings : Settings) : Except (List ValidationError) Settings :=
  match settings.problems with
  | [] => .ok settings
  | problems => .error problems

def parse (text : String) : Except SettingsError Settings :=
  match ofToml? text with
  | none => .error .syntaxError
  | some settings =>
    match settings.validate with
    | .ok settings => .ok settings
    | .error problems => .error (.invalid problems)

def load (file : FileContent) : Except SettingsError Settings :=
  match file.text? with
  | .error fault => .error (.file fault)
  | .ok text => parse text

end Settings

end Switchboard
