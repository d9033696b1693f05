import SharedRecords.Wire.Chunk

/-!
Writing messages into a buffer of fixed length. A message that does not fit leaves the chunks
that did, the bytes behind them keep their content, and writing may go on after a failure.
-/

namespace SharedRecords.Wire

structure Encoder where
  buffer : List UInt8
  position : Nat
  inside : position ≤ buffer.length := by simp

namespace Encoder

def start (buffer : List UInt8) : Encoder := ⟨buffer, 0, Nat.zero_le _⟩

def remaining (encoder : Encoder) : Nat := encoder.buffer.length - encoder.position

/-- Overwrites the buffer from the position on. -/
def write (encoder : Encoder) (bytes : List UInt8) : Encoder where
  buffer := encoder.buffer.take encoder.position ++ bytes ++
    encoder.buffer.drop (encoder.position + bytes.length)
  position := encoder.position + bytes.length
  inside := by
    have inside := encoder.inside
    simp only [List.length_append, List.length_take, List.length_drop]
    omega

/-- Writes the leading chunks that fit, and says which chunk did not. -/
def put (encoder : Encoder) (message : Message) : Option Error × Encoder :=
  ((message.fit encoder.remaining).2,
    encoder.write (message.fit encoder.remaining).1.bytes)

theorem write_buffer_length (encoder : Encoder) (bytes : List UInt8)
    (fits : bytes.length ≤ encoder.remaining) :
    (encoder.write bytes).buffer.length = encoder.buffer.length := by
  have inside := encoder.inside
  simp only [remaining] at fits
  simp only [write, List.length_append, List.length_take, List.length_drop]
  omega

theorem position_add_remaining (encoder : Encoder) :
    encoder.position + encoder.remaining = encoder.buffer.length := by
  have inside := encoder.inside
  simp only [remaining]
  omega

theorem put_succeeds_iff (encoder : Encoder) (message : Message) :
    (encoder.put message).1 = none ↔ message.size ≤ encoder.remaining :=
  Message.fit_failure_eq_none_iff encoder.remaining message

end Encoder

def encodeInto (buffer : List UInt8) (message : Message) : Option Error × List UInt8 :=
  let (failure, encoder) := (Encoder.start buffer).put message
  (failure, encoder.buffer)

end SharedRecords.Wire
