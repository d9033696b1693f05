import SharedRecords.Wire.Error

/-!
Flag bytes: the operation a request asks for and the status a response carries.
Each code has one byte, none of them the empty flag, and reading a byte back gives the code.
-/

namespace SharedRecords.Wire

def emptyFlag : UInt8 := 0

def schemaFlag : UInt8 := 0x53

inductive Opcode where
  | read | scan | insert | update | delete | close
  deriving DecidableEq, Repr, Inhabited

namespace Opcode

def all : List Opcode := [read, scan, insert, update, delete, close]

def byte : Opcode → UInt8
  | read => 0x72
  | scan => 0x73
  | insert => 0x69
  | update => 0x75
  | delete => 0x64
  | close => 0x63

def name : Opcode → String
  | read => "read"
  | scan => "scan"
  | insert => "insert"
  | update => "update"
  | delete => "delete"
  | close => "close"

def ofByte? (byte : UInt8) : Option Opcode := all.find? (·.byte == byte)

def ofByte (byte : UInt8) : Except Error Opcode :=
  match ofByte? byte with
  | some opcode => .ok opcode
  | none => .error (.unknownOpcode byte)

/-- The place of a code in the list of all of them. -/
def index (opcode : Opcode) : Nat := all.idxOf opcode

theorem ofByte_byte (opcode : Opcode) : ofByte opcode.byte = .ok opcode := by
  cases opcode <;> rfl

theorem byte_inj {first second : Opcode} (same : first.byte = second.byte) : first = second := by
  have read := congrArg ofByte same
  rw [ofByte_byte, ofByte_byte] at read
  exact Except.ok.inj read

theorem byte_ne_empty (opcode : Opcode) : opcode.byte ≠ emptyFlag := by
  cases opcode <;> decide

end Opcode

inductive Status where
  /-- The payload holds the result, if the operation has one. -/
  | ok
  /-- The key or range does not exist. -/
  | notFound
  | conflict
  | failed
  /-- The session ended on a protocol violation. -/
  | aborted
  deriving DecidableEq, Repr, Inhabited

namespace Status

def all : List Status := [ok, notFound, conflict, failed, aborted]

def byte : Status → UInt8
  | ok => 1
  | notFound => 2
  | conflict => 3
  | failed => 4
  | aborted => 0xff

def name : Status → String
  | ok => "ok"
  | notFound => "not_found"
  | conflict => "conflict"
  | failed => "failed"
  | aborted => "aborted"

def ofByte? (byte : UInt8) : Option Status := all.find? (·.byte == byte)

def ofByte (byte : UInt8) : Except Error Status :=
  match ofByte? byte with
  | some status => .ok status
  | none => .error (.unknownStatus byte)

/-- The session still serves after this status. -/
def isRecoverable (status : Status) : Bool := status != aborted

theorem ofByte_byte (status : Status) : ofByte status.byte = .ok status := by
  cases status <;> rfl

theorem error_of_ofByte {byte : UInt8} {error : Error} (unknown : ofByte byte = .error error) :
    error = .unknownStatus byte := by
  unfold ofByte at unknown
  split at unknown
  · contradiction
  · exact (Except.error.inj unknown).symm

theorem byte_ne_empty (status : Status) : status.byte ≠ emptyFlag := by
  cases status <;> decide

end Status

end SharedRecords.Wire
