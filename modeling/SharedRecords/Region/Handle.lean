import SharedRecords.Text.Path
import SharedRecords.Text.Quoted

/-!
Handles: how a region is known to a party that has not mapped it.
-/

namespace SharedRecords.Region

inductive Handle where
  /-- A region of this process, by number. -/
  | anonymous (number : Nat)
  | file (path : String)
  deriving DecidableEq, Repr, Inhabited

namespace Handle

/-- Whether two handles are the same to whoever compares them. -/
def agrees : Handle → Handle → Bool
  | anonymous first, anonymous second => first == second
  | file first, file second => Text.Path.agree first second
  | _, _ => false

def text : Handle → String
  | anonymous number => s!"anon:{number}"
  | file path => "file:" ++ path

/-- The handle as it shows inside the description of a larger value. -/
def description : Handle → String
  | anonymous number => s!"Anonymous({number})"
  | file path => "File(" ++ Text.quoted path ++ ")"

def json : Handle → String
  | anonymous number => "\x7b\"Anonymous\":" ++ toString number ++ "\x7d"
  | file path => "\x7b\"File\":" ++ Text.jsonQuoted path ++ "\x7d"

end Handle

end SharedRecords.Region
