import SharedRecords.Duration
import SharedRecords.Wire.Error

/-!
What a client can be told instead of a response.
-/

namespace SharedRecords.Channel

inductive Error where
  /-- The request did not fit, or the response was not readable. -/
  | wire (error : Wire.Error)
  /-- The channel has carried its last response. -/
  | closed
  /-- An earlier failure left the channel in an unknown state. -/
  | poisoned
  | timeout (waited : Duration)
  /-- The session ended on a protocol violation. -/
  | aborted
  deriving DecidableEq, Repr, Inhabited

namespace Error

/-- The name under which the error is reported; a wrapped error is named behind a dot. -/
def kind : Error → String
  | wire error => "Wire." ++ error.kind
  | closed => "Closed"
  | poisoned => "Poisoned"
  | timeout _ => "Timeout"
  | aborted => "Aborted"

def message : Error → String
  | wire error => "wire protocol error: " ++ error.message
  | closed => "channel closed"
  | poisoned => "channel poisoned by an earlier failure"
  | timeout waited => "no response after " ++ waited.text
  | aborted => "session aborted by server"

/-- A request that did not fit was never seen by the session; after any other failure the channel
carries nothing more. -/
def isFatal : Error → Bool
  | wire (.bufferOverflow ..) => false
  | _ => true

end Error

end SharedRecords.Channel
