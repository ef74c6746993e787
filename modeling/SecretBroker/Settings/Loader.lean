import SecretBroker.Json.Complaint
import SecretBroker.Settings.Environment
import SecretBroker.Settings.Json
import SecretBroker.Settings.Toml
import SecretBroker.Settings.Yaml
import SecretBroker.Text.Utf8

/-!
# Loading settings

Settings come from a file, if one is named, and then from the environment; what comes out must be
without fault. The end of a file's name says its format. Reading the file is left to a function from
its name to its bytes.
-/

namespace SecretBroker

/-- Why no settings could be loaded. -/
inductive SettingsError where
  /-- The file could not be read; the text is the system's. -/
  | unreadable (path reason : String)
  /-- The file's text is not in its format, or not settings. -/
  | unparsable (path reason : String)
  | unsupportedFormat (ending : String)
  | badVariable (cause : Settings.BadVariable)
  | invalid (fault : SettingsFault)
deriving DecidableEq, Repr

namespace SettingsError

def message : SettingsError → String
  | .unreadable path reason => "Failed to read config file " ++ path ++ ": " ++ reason
  | .unparsable path reason => "Failed to parse config file " ++ path ++ ": " ++ reason
  | .unsupportedFormat ending =>
    "Unsupported config format: " ++ ending ++ " (expected .yaml, .yml, .toml or .json)"
  | .badVariable b => "Invalid value for " ++ b.name ++ ": " ++ b.problem
  | .invalid fault => "Invalid configuration: " ++ fault.message

/-- The texts of what caused the error. -/
def causes : SettingsError → List String
  | .unreadable _ reason => [reason]
  | _ => []

end SettingsError

namespace Settings

/-- The bytes of a file, or the system's text for why there are none. -/
abbrev FileReader := String → Except String (List UInt8)

/-- The last part of a path, if it names anything. -/
def lastName? (path : String) : Option (List Char) :=
  match ((path.toList.splitOn '/').filter fun n => n != [] && n != ['.']).getLast? with
  | some name => if name = ['.', '.'] then none else some name
  | none => none

/-- What follows the last point of a file's name, in lower case; a name that begins with its only
point has no ending. -/
def ending (path : String) : String :=
  match lastName? path with
  | none => ""
  | some name =>
    let after := (name.reverse.takeWhile (· != '.')).reverse
    if name.length ≤ after.length + 1 then "" else Text.lowered (String.ofList after)

/-- The settings in the text of a file. -/
def ofText (path text : String) : Except SettingsError Settings :=
  let parsed (s : Option Settings) (format : String) : Except SettingsError Settings :=
    match s with
    | some s => .ok s
    | none => .error (.unparsable path ("invalid " ++ format))
  match ending path with
  | "yaml" | "yml" => parsed (ofYaml? text) "YAML"
  | "toml" => parsed (ofToml? text) "TOML"
  | "json" => (Json.decode jsonReader text).mapError fun c => .unparsable path c.message
  | other => .error (.unsupportedFormat other)

/-- The settings in a file. -/
def ofFile (read : FileReader) (path : String) : Except SettingsError Settings :=
  match read path with
  | .error reason => .error (.unreadable path reason)
  | .ok bytes =>
    match Text.decoded? bytes with
    | none => .error (.unreadable path "stream did not contain valid UTF-8")
    | some text => ofText path text

/-- The settings, if they are without fault. -/
def checked (s : Settings) : Except SettingsError Settings :=
  match s.check with
  | .ok () => .ok s
  | .error fault => .error (.invalid fault)

/-- Settings from a file, if one is named, and from the environment, unless it is left out. -/
def load (read : FileReader) (file : Option String) (env : Option Environment) :
    Except SettingsError Settings := do
  let s ← match file with
    | some path => ofFile read path
    | none => .ok {}
  let s ← match env with
    | some env => (s.withEnvironment env).mapError .badVariable
    | none => .ok s
  s.checked

end Settings
end SecretBroker
