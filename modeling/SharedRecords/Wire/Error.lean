import SharedRecords.Text.Hex

/-!
The ways in which writing or reading a payload can fail, each with its message.
-/

namespace SharedRecords.Wire

inductive Error where
  /-- The buffer has no room for the next primitive value. -/
  | bufferOverflow (needed remaining : Nat)
  /-- The payload ends inside a primitive value. -/
  | truncated (needed remaining : Nat)
  /-- A length exceeds what memory can hold. -/
  | lengthOverflow (length : Nat)
  | invalidUtf8
  | unknownOpcode (byte : UInt8)
  | unknownStatus (byte : UInt8)
  deriving DecidableEq, Repr, Inhabited

namespace Error

/-- The name under which the error is reported. -/
def kind : Error → String
  | bufferOverflow .. => "BufferOverflow"
  | truncated .. => "Truncated"
  | lengthOverflow _ => "LengthOverflow"
  | invalidUtf8 => "InvalidUtf8"
  | unknownOpcode _ => "UnknownOpcode"
  | unknownStatus _ => "UnknownStatus"

def message : Error → String
  | bufferOverflow needed remaining =>
    s!"buffer overflow: need {needed} bytes, {remaining} remaining"
  | truncated needed remaining =>
    s!"truncated payload: need {needed} bytes, {remaining} remaining"
  | lengthOverflow length => s!"length prefix {length} exceeds addressable memory"
  | invalidUtf8 => "invalid UTF-8 in string payload"
  | unknownOpcode byte => "unknown opcode " ++ Text.prefixedByte byte
  | unknownStatus byte => "unknown response status " ++ Text.prefixedByte byte

/-- Only a full buffer leaves both parties unaware of the failed message. -/
def isOverflow : Error → Bool
  | bufferOverflow .. => true
  | _ => false

end Error

end SharedRecords.Wire
