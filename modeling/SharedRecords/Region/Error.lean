import SharedRecords.Region.Handle

/-!
The ways in which handing out, mapping or taking back a region can fail, each with its message.
-/

namespace SharedRecords.Region

inductive Error where
  | io (detail : String)
  | mapFailed (handle : Handle) (detail : String)
  | capacityTooSmall (capacity minimum : Nat)
  /-- As many regions are live as the limit allows. -/
  | exhausted (limit : Nat)
  | unknownRegion (handle : Handle)
  /-- The handle is of a kind that this pool never hands out. -/
  | foreignHandle (handle : Handle)
  deriving DecidableEq, Repr, Inhabited

namespace Error

/-- The name under which the error is reported. -/
def kind : Error → String
  | io _ => "Io"
  | mapFailed .. => "MapFailed"
  | capacityTooSmall .. => "CapacityTooSmall"
  | exhausted _ => "Exhausted"
  | unknownRegion _ => "UnknownRegion"
  | foreignHandle _ => "ForeignHandle"

def message : Error → String
  | io detail => "i/o error: " ++ detail
  | mapFailed handle detail => "failed to map " ++ handle.text ++ ": " ++ detail
  | capacityTooSmall capacity minimum =>
    s!"region capacity {capacity} is too small (minimum {minimum})"
  | exhausted limit => s!"region limit reached: {limit} live regions"
  | unknownRegion handle => "unknown region " ++ handle.text
  | foreignHandle handle => "region " ++ handle.text ++ " does not belong to this provider"

end Error

end SharedRecords.Region
