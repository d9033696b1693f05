import SharedRecords.Wire.Code

/-!
Violations of the channel protocol. Any of them ends the session in which it arose.
-/

namespace SharedRecords.Session

inductive Violation where
  | unknownOpcode (flag : UInt8)
  | malformed (opcode : Wire.Opcode) (error : Wire.Error)
  /-- Not even the message that a reply does not fit has room. -/
  | responseOverflow (capacity : Nat)
  /-- A control region that holds no schema. -/
  | unexpectedFlag (flag : UInt8)
  deriving DecidableEq, Repr, Inhabited

namespace Violation

/-- The name under which the violation is reported; a wrapped error is named behind a dot. -/
def kind : Violation → String
  | unknownOpcode _ => "UnknownOpcode"
  | malformed _ error => "Malformed." ++ error.kind
  | responseOverflow _ => "ResponseOverflow"
  | unexpectedFlag _ => "UnexpectedControlFlag"

def message : Violation → String
  | unknownOpcode flag => "unknown opcode " ++ Text.prefixedByte flag
  | malformed opcode error => "malformed " ++ opcode.name ++ " request: " ++ error.message
  | responseOverflow capacity => s!"response region too small for any reply ({capacity} bytes)"
  | unexpectedFlag flag => "unexpected control flag " ++ Text.prefixedByte flag

end Violation

end SharedRecords.Session
