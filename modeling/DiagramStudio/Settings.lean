import DiagramStudio.Document.Shape
import DiagramStudio.Text.Blank

/-!
# Settings

The settings of the editor and the file that they are kept in. A file that is not there or cannot
be read counts as the usual settings.

* `Settings.timeoutSecs_ne_zero`: a request always gets some time.
-/

namespace DiagramStudio

/-- The settings of the editor (`EditorSettings`). -/
structure Settings where
  apiBaseUrl : String := "http://localhost:8000"
  requestTimeoutSecs : UInt64 := 30
  defaultProjectName : String := "my-awesome-project"
deriving Repr, DecidableEq, Inhabited

namespace Settings

/-- The shape of the settings. -/
def shape : Shape Settings where
  name := "EditorSettings"
  blank := {}
  fields := [
    .may "apiBaseUrl" (Field.plain Doc.text) fun apiBaseUrl s => { s with apiBaseUrl },
    .may "requestTimeoutSecs" (Field.plain Doc.uint64) fun requestTimeoutSecs s =>
      { s with requestTimeoutSecs },
    .may "defaultProjectName" (Field.plain Doc.text) fun defaultProjectName s =>
      { s with defaultProjectName }]

/-- Reads settings. -/
def read : Source → Doc → Read Settings := shape.read

/-- The settings, written. -/
def json (settings : Settings) : Json :=
  .obj [("apiBaseUrl", .str settings.apiBaseUrl),
    ("requestTimeoutSecs", .ofNat settings.requestTimeoutSecs.toNat),
    ("defaultProjectName", .str settings.defaultProjectName)]

/-- The settings with another address of the services, unless that is blank
(`with_api_url_override`). -/
def withAddress (settings : Settings) (address : Option String) : Settings :=
  match (address.map Text.trim).filter (· ≠ "") with
  | some apiBaseUrl => { settings with apiBaseUrl }
  | none => settings

/-- How many seconds a request may take: at least one (`request_timeout`). -/
def timeoutSecs (settings : Settings) : UInt64 :=
  if settings.requestTimeoutSecs = 0 then 1 else settings.requestTimeoutSecs

theorem timeoutSecs_ne_zero (settings : Settings) : settings.timeoutSecs ≠ 0 := by
  unfold timeoutSecs
  split
  · decide
  · assumption

/-- A text without slashes at its end. -/
def withoutEndSlashes (text : String) : String :=
  String.ofList ((text.toList.reverse.dropWhile (· = '/')).reverse)

/-- The address of the services, ready for a path to follow (`api_base`). -/
def base (settings : Settings) : String := withoutEndSlashes settings.apiBaseUrl

/-! ## The settings file -/

/-- The directory of the settings file, inside that of the user. -/
def directory : String := ".autoarch"

/-- The path of the settings file, inside the directory of the user (`settings_path`). -/
def path : String := directory ++ "/settings.json"

/-- What stands at a path. -/
inductive Place where
  | nothing
  | file (content : List UInt8)
  | directory
  /-- The path leads through something that is no directory. -/
  | blocked
deriving Repr

/-- The text of a row of bytes, if it is one. -/
def utf8? (bytes : List UInt8) : Option String := String.fromUTF8? ⟨bytes.toArray⟩

/-- The settings that are kept at a path (`read_settings_from`). -/
def load : Place → Settings
  | .file content =>
    match (utf8? content).map (readText read) with
    | some (.ok settings) => settings
    | _ => {}
  | _ => {}

/-- The text that saving leaves at a path, unless no file can be put there (`write_settings_to`). -/
def save (settings : Settings) : Place → Option String
  | .nothing => some settings.json.pretty
  | .file _ => some settings.json.pretty
  | .directory => none
  | .blocked => none

end Settings

end DiagramStudio
