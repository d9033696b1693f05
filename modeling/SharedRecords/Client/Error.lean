import SharedRecords.Channel.Error
import SharedRecords.Region.Error

/-!
The ways in which a client's call can fail.
-/

namespace SharedRecords.Client

inductive Error where
  | notFound
  | conflict
  | failed (reason : String)
  | channel (error : Channel.Error)
  | region (error : Region.Error)
  | wire (error : Wire.Error)
  deriving DecidableEq, Repr, Inhabited

namespace Error

/-- The name under which the error is reported; a wrapped error is named behind a dot. -/
def kind : Error → String
  | notFound => "NotFound"
  | conflict => "Conflict"
  | failed _ => "Failed"
  | channel error => "Channel." ++ error.kind
  | region error => "Region." ++ error.kind
  | wire error => "Wire." ++ error.kind

def message : Error → String
  | notFound => "record not found"
  | conflict => "write conflict"
  | failed reason => "server failure: " ++ reason
  | channel error => "channel error: " ++ error.message
  | region error => "region error: " ++ error.message
  | wire error => "wire protocol error: " ++ error.message

/-- The session still answers after this error. -/
def isRecoverable : Error → Bool
  | notFound | conflict | failed _ => true
  | channel error => !error.isFatal
  | region _ | wire _ => false

def isNotFound : Error → Bool
  | notFound => true
  | _ => false

/-- The messages of the errors that this one wraps, outermost first. -/
def causes : Error → List String
  | channel (.wire error) => [(Channel.Error.wire error).message, error.message]
  | channel error => [error.message]
  | region (.mapFailed handle detail) => [(Region.Error.mapFailed handle detail).message, detail]
  | region (.io detail) => [(Region.Error.io detail).message, detail]
  | region error => [error.message]
  | wire error => [error.message]
  | _ => []

end Error

end SharedRecords.Client
