import SharedRecords.Proofs.Wire.Length

/-!
Whether a message fits. A message that has room is written whole. One that has not breaks off in front of a
chunk, and the error tells how long that chunk is and how much room it met. For values and replies this is
known beforehand by their length.
-/

namespace SharedRecords.Wire

namespace Message

/-- All that fitting a message into a room can come to. -/
inductive Fits (room : Nat) (message : Message) : Message × Option Error → Prop where
  | whole (enough : message.size ≤ room) : Fits room message (message, none)
  | part (front : Message) (chunk : Chunk) (back : Message) (split : message = front ++ chunk :: back)
      (inside : front.size ≤ room) (short : room - front.size < chunk.size) :
      Fits room message (front, some (.bufferOverflow chunk.size (room - front.size)))

theorem fit_fits (room : Nat) (message : Message) : Fits room message (message.fit room) := by
  induction message generalizing room with
  | nil => exact .whole (Nat.zero_le room)
  | cons first rest ih =>
    by_cases fits : first.size ≤ room
    · rw [fit, if_pos fits]
      generalize attempt : fit (room - first.size) rest = outcome
      have later := ih (room - first.size)
      rw [attempt] at later
      cases later with
      | whole enough =>
        apply Fits.whole
        simp only [size]
        omega
      | part front chunk back split inside short =>
        have room_left : room - first.size - front.size = room - size (first :: front) := by
          simp only [size]
          omega
        rw [room_left] at short ⊢
        refine .part (first :: front) chunk back (by rw [split, List.cons_append]) ?_ short
        simp only [size]
        omega
    · rw [fit, if_neg fits]
      exact .part [] first rest rfl (Nat.zero_le room) (Nat.lt_of_not_le fits)

theorem overflow_of_fit {room : Nat} {message : Message} {error : Error} (failed : (message.fit room).2 = some error) :
    ∃ needed remaining, error = .bufferOverflow needed remaining := by
  have fits := message.fit_fits room
  generalize message.fit room = outcome at fits failed
  cases fits with
  | whole => contradiction
  | part front chunk back split inside short => exact ⟨_, _, (Option.some.inj failed).symm⟩

end Message

namespace Encoder

variable {encoder : Encoder} {bytes : List UInt8}

theorem write_position (encoder : Encoder) (bytes : List UInt8) :
    (encoder.write bytes).position = encoder.position + bytes.length := rfl

theorem write_remaining (fits : bytes.length ≤ encoder.remaining) :
    (encoder.write bytes).remaining = encoder.remaining - bytes.length := by
  unfold remaining
  rw [write_buffer_length encoder bytes fits, write_position]
  omega

/-- All that putting a message can come to. -/
inductive Puts (encoder : Encoder) (message : Message) : Option Error × Encoder → Prop where
  | whole (enough : message.size ≤ encoder.remaining) :
      Puts encoder message (none, encoder.write message.bytes)
  | part (front : Message) (chunk : Chunk) (back : Message) (split : message = front ++ chunk :: back)
      (inside : front.size ≤ encoder.remaining)
      (short : (encoder.write front.bytes).remaining < chunk.size) :
      Puts encoder message (some (.bufferOverflow chunk.size (encoder.write front.bytes).remaining),
        encoder.write front.bytes)

theorem put_puts (encoder : Encoder) (message : Message) : Puts encoder message (encoder.put message) := by
  unfold put
  generalize attempt : message.fit encoder.remaining = outcome
  have fits := message.fit_fits encoder.remaining
  rw [attempt] at fits
  cases fits with
  | whole enough => exact .whole enough
  | part front chunk back split inside short =>
    have room : (encoder.write front.bytes).remaining = encoder.remaining - front.size := by
      rw [write_remaining (by rw [Message.bytes_length]; exact inside), Message.bytes_length]
    rw [← room] at short ⊢
    exact .part front chunk back split inside short

/-- A length that tells whether a message has room, and what it takes of the room that it has. -/
structure Measures (encoder : Encoder) (message : Message) (length : Nat) : Prop where
  succeeds_iff : (encoder.put message).1 = none ↔ length ≤ encoder.remaining
  grows : (encoder.put message).1 = none →
    (encoder.put message).2.position = encoder.position + length ∧
      (encoder.put message).2.remaining + length = encoder.remaining
  overflows : ∀ error, (encoder.put message).1 = some error →
    ∃ needed remaining, error = .bufferOverflow needed remaining ∧ remaining < needed

theorem measures_size (encoder : Encoder) (message : Message) : encoder.Measures message message.size := by
  refine ⟨put_succeeds_iff encoder message, ?_, ?_⟩
  · intro whole
    have puts := put_puts encoder message
    generalize encoder.put message = outcome at puts whole
    cases puts with
    | whole enough =>
      have fits : message.bytes.length ≤ encoder.remaining := by rwa [Message.bytes_length]
      refine ⟨?_, ?_⟩
      · rw [write_position, Message.bytes_length]
      · rw [write_remaining fits, Message.bytes_length]
        omega
    | part => contradiction
  · intro error failed
    have puts := put_puts encoder message
    generalize encoder.put message = outcome at puts failed
    cases puts with
    | whole => contradiction
    | part front chunk back split inside short =>
      exact ⟨_, _, (Option.some.inj failed).symm, short⟩

/-- A value is written whole exactly if its length does not exceed the room, whatever was written before, and
it is its length that the room shrinks by. -/
theorem encodedLength_measures (encoder : Encoder) :
    (∀ (shape : Shape) (value : shape.Value),
      encoder.Measures (shape.chunks value) (shape.encodedLength value)) ∧
    ∀ reply : Reply, encoder.Measures reply.chunks reply.encodedLength := by
  constructor
  · intro shape value
    rw [← shape.size_chunks]
    exact encoder.measures_size _
  · intro reply
    rw [← reply.size_chunks]
    exact encoder.measures_size _

end Encoder

end SharedRecords.Wire
