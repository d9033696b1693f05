/-!
The ways in which settings can be refused, each with its message.
-/

namespace SharedRecords.Settings

inductive Error where
  | unreadable (path detail : String)
  | unparsable (path detail : String)
  | invalid (reason : String)
  /-- The place of the user's own settings is not known. -/
  | noUserFolder (reason : String)
  deriving DecidableEq, Repr, Inhabited

namespace Error

/-- The name under which the error is reported. -/
def kind : Error → String
  | unreadable .. => "ReadError"
  | unparsable .. => "ParseError"
  | invalid _ => "ValidationError"
  | noUserFolder _ => "XdgError"

/-- The part of the message that does not depend on what went wrong inside the file. -/
def place : Error → String
  | unreadable path _ => "Failed to read config file at " ++ path
  | unparsable path _ => "Failed to parse TOML config at " ++ path
  | invalid _ | noUserFolder _ => ""

def message : Error → String
  | unreadable path detail => place (unreadable path detail) ++ ": " ++ detail
  | unparsable path detail => place (unparsable path detail) ++ ": " ++ detail
  | invalid reason => "Invalid configuration: " ++ reason
  | noUserFolder reason => "XDG directory error: " ++ reason

end Error

end SharedRecords.Settings
