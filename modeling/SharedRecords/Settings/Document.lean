import SharedRecords.Settings.Dialect
import SharedRecords.Toml.Document

/-!
Settings from one TOML document, without any other source.
-/

namespace SharedRecords.Settings

/-- The settings that the file at a path states; no text stands for a file that cannot be read. -/
def ofDocument (path : String) (document : Option String) : Except Error Settings :=
  match document with
  | none => .error (.unreadable path "no text")
  | some text =>
    match (Toml.parse .separate text).bind Dialect.toml.settings with
    | none => .error (.unparsable path "not the settings of a database")
    | some settings =>
      match settings.validate with
      | .error error => .error error
      | .ok () => .ok settings

end SharedRecords.Settings
