import SharedRecords.Wire.Code
import SharedRecords.Wire.Shape

/-!
Requests: what a client asks of a session. The opcode travels in the flag byte, so a payload
is read with the opcode it came with; bytes behind the payload are ignored.
-/

namespace SharedRecords.Wire

inductive Request where
  /-- No fields stands for every column. -/
  | read (table key : String) (fields : List String)
  | scan (table start : String) (count : UInt64) (fields : List String)
  | insert (table key : String) (values : Record)
  | update (table key : String) (values : Record)
  | delete (table key : String)
  | close
  deriving DecidableEq, Repr, Inhabited

namespace Request

def opcode : Request → Opcode
  | read .. => .read
  | scan .. => .scan
  | insert .. => .insert
  | update .. => .update
  | delete .. => .delete
  | close => .close

def chunks : Request → Message
  | read table key fields => .text table :: .text key :: textsChunks fields
  | scan table start count fields => .text table :: .text start :: .word count :: textsChunks fields
  | insert table key values => .text table :: .text key :: recordChunks values
  | update table key values => .text table :: .text key :: recordChunks values
  | delete table key => [.text table, .text key]
  | close => []

def reader : Opcode → Reader Request
  | .read => do
    let table ← Reader.text
    let key ← Reader.text
    let fields ← Reader.sequence Reader.text
    pure (.read table key fields)
  | .scan => do
    let table ← Reader.text
    let start ← Reader.text
    let count ← Reader.word
    let fields ← Reader.sequence Reader.text
    pure (.scan table start count fields)
  | .insert => do
    let table ← Reader.text
    let key ← Reader.text
    let values ← Reader.record
    pure (.insert table key values)
  | .update => do
    let table ← Reader.text
    let key ← Reader.text
    let values ← Reader.record
    pure (.update table key values)
  | .delete => do
    let table ← Reader.text
    let key ← Reader.text
    pure (.delete table key)
  | .close => pure .close

theorem opcode_ne_close {request : Request} (other : request ≠ .close) : request.opcode ≠ .close := by
  cases request with
  | close => exact absurd rfl other
  | read | scan | insert | update | delete => nofun

end Request

end SharedRecords.Wire
