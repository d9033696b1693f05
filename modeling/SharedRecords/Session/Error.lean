import SharedRecords.Region.Error
import SharedRecords.Schema
import SharedRecords.Session.Violation
import SharedRecords.Store.Error

/-!
The ways in which serving can fail: errors of a session, and errors of the manager that starts and
collects sessions.
-/

namespace SharedRecords.Session

inductive Error where
  | violation (cause : Violation)
  /-- A control message could not be read. -/
  | wire (error : Wire.Error)
  | region (error : Region.Error)
  | store (error : Store.Error)
  | io (detail : String)
  | schemaInstalled
  | schemaMissing
  | unknownSession (id : SessionId)
  | crashed (id : SessionId)
  | startupFailed (id : SessionId)
  deriving DecidableEq, Repr, Inhabited

namespace Error

/-- The name under which the error is reported; a wrapped error is named behind a dot. -/
def kind : Error → String
  | violation cause => "Protocol." ++ cause.kind
  | wire error => "Wire." ++ error.kind
  | region error => "Region." ++ error.kind
  | store error => "Backend." ++ error.kind
  | io _ => "Io"
  | schemaInstalled => "SchemaAlreadyInstalled"
  | schemaMissing => "SchemaNotInstalled"
  | unknownSession _ => "UnknownSession"
  | crashed _ => "SessionPanicked"
  | startupFailed _ => "StartupFailed"

def message : Error → String
  | violation cause => "protocol error: " ++ cause.message
  | wire error => "wire protocol error: " ++ error.message
  | region error => "region error: " ++ error.message
  | store error => "backend error: " ++ error.message
  | io detail => "i/o error: " ++ detail
  | schemaInstalled => "schema already installed"
  | schemaMissing => "schema not installed"
  | unknownSession id => "unknown session: " ++ id.text
  | crashed id => id.text ++ " panicked"
  | startupFailed id => id.text ++ " failed to start"

def violation? : Error → Option Violation
  | violation cause => some cause
  | _ => none

def isViolation (error : Error) : Bool := error.violation?.isSome

/-- The platform had no room, as opposed to a fault of either party. -/
def isResource : Error → Bool
  | region _ | io _ => true
  | _ => false

end Error

end SharedRecords.Session
