import SharedRecords.Wire.Shape

/-!
Replies: what a session answers when a request succeeds.
-/

namespace SharedRecords.Wire

inductive Reply where
  | record (value : Record)
  | rows (value : Rows)
  | empty
  deriving DecidableEq, Repr, Inhabited

namespace Reply

def chunks : Reply → Message
  | record value => recordChunks value
  | rows value => rowsChunks value
  | empty => []

def encodedLength : Reply → Nat
  | record value => Shape.record.encodedLength value
  | rows value => Shape.rows.encodedLength value
  | empty => 0

end Reply

end SharedRecords.Wire
