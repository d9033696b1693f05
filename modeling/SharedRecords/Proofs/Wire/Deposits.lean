import SharedRecords.Proofs.Wire.Fitting

/-!
What an encoder leaves in its buffer when it is handed one piece after another and goes on after failures.
Each piece leaves its encoding, or the chunks in front of the one that had no room, so that no text is ever
parted from its length. Nothing behind the position has changed.
-/

namespace SharedRecords.Wire

/-- What an encoder is handed at a time. -/
inductive Piece where
  | raw (bytes : List UInt8)
  | value (item : Item)

namespace Piece

def chunks : Piece → Message
  | raw bytes => [.raw bytes]
  | value item => item.chunks

end Piece

/-- A piece, how putting it went, and the chunks that it left in the buffer. -/
structure Deposit where
  piece : Piece
  failure : Option Error
  left : Message
  whole : failure = none → left = piece.chunks
  /-- The chunk behind those that were left is the one that the error tells of. -/
  part : ∀ error, failure = some error → ∃ (chunk : Chunk) (back : Message) (room : Nat),
    room < chunk.size ∧ error = .bufferOverflow chunk.size room ∧ piece.chunks = left ++ chunk :: back

namespace Deposit

theorem proper (deposit : Deposit) (failed : deposit.failure ≠ none) :
    deposit.left.bytes <+: deposit.piece.chunks.bytes ∧ deposit.left.bytes ≠ deposit.piece.chunks.bytes := by
  obtain ⟨error, broken⟩ := Option.ne_none_iff_exists'.mp failed
  obtain ⟨chunk, back, room, short, _, split⟩ := deposit.part error broken
  have bytes : deposit.piece.chunks.bytes = deposit.left.bytes ++ (chunk.bytes ++ back.bytes) := by
    rw [split, Message.bytes_append, Message.bytes_cons]
  refine ⟨⟨_, bytes.symm⟩, ?_⟩
  intro same
  have lengths := congrArg List.length (same.trans bytes)
  simp only [List.length_append, Chunk.bytes_length] at lengths
  omega

end Deposit

namespace Encoder

variable {encoder : Encoder} {buffer bytes : List UInt8} {deposits : List Deposit}

/-- Puts every piece in turn, whether or not those before had room. -/
def putEach : Encoder → List Piece → List (Option Error) × Encoder
  | encoder, [] => ([], encoder)
  | encoder, piece :: rest =>
    let (failure, next) := encoder.put piece.chunks
    let (failures, last) := next.putEach rest
    (failure :: failures, last)

theorem putEach_append (encoder : Encoder) (done later : List Piece) :
    encoder.putEach (done ++ later) =
      ((encoder.putEach done).1 ++ ((encoder.putEach done).2.putEach later).1,
        ((encoder.putEach done).2.putEach later).2) := by
  induction done generalizing encoder with
  | nil => rfl
  | cons piece rest ih => simp only [List.cons_append, putEach, ih]

/-- In front of the position stands what the deposits left, in order, and behind it what the buffer held at
the start. -/
structure Holds (encoder : Encoder) (buffer : List UInt8) (deposits : List Deposit) : Prop where
  length : encoder.position + encoder.remaining = buffer.length
  front : encoder.buffer.take encoder.position = deposits.flatMap (·.left.bytes)
  back : encoder.buffer.drop encoder.position = buffer.drop encoder.position

theorem start_holds (buffer : List UInt8) : (start buffer).Holds buffer [] where
  length := by rw [position_add_remaining, start]
  front := rfl
  back := rfl

namespace Holds

theorem write (holds : encoder.Holds buffer deposits) (deposit : Deposit)
    (fits : deposit.left.size ≤ encoder.remaining) :
    (encoder.write deposit.left.bytes).Holds buffer (deposits ++ [deposit]) := by
  have inside := encoder.inside
  have room : deposit.left.bytes.length ≤ encoder.remaining := by rwa [Message.bytes_length]
  have before : (encoder.buffer.take encoder.position ++ deposit.left.bytes).length =
      encoder.position + deposit.left.bytes.length := by
    rw [List.length_append, List.length_take, Nat.min_eq_left inside]
  refine ⟨?_, ?_, ?_⟩
  · have total := holds.length
    rw [write_position, write_remaining room]
    omega
  · rw [write_position, Encoder.write, List.take_left' before, holds.front, List.flatMap_append,
      List.flatMap_singleton]
  · calc (encoder.write deposit.left.bytes).buffer.drop (encoder.write deposit.left.bytes).position
        = encoder.buffer.drop (encoder.position + deposit.left.bytes.length) := by
          rw [write_position, Encoder.write, List.drop_left' before]
      _ = (encoder.buffer.drop encoder.position).drop deposit.left.bytes.length := List.drop_drop.symm
      _ = (buffer.drop encoder.position).drop deposit.left.bytes.length := by rw [holds.back]
      _ = buffer.drop (encoder.write deposit.left.bytes).position := by
          rw [List.drop_drop, write_position]

theorem put (holds : encoder.Holds buffer deposits) (piece : Piece) :
    ∃ deposit : Deposit, deposit.piece = piece ∧ deposit.failure = (encoder.put piece.chunks).1 ∧
      (encoder.put piece.chunks).2.Holds buffer (deposits ++ [deposit]) := by
  have puts := put_puts encoder piece.chunks
  generalize encoder.put piece.chunks = outcome at puts
  cases puts with
  | whole enough =>
    let deposit : Deposit := ⟨piece, none, piece.chunks, fun _ => rfl, nofun⟩
    exact ⟨deposit, rfl, rfl, holds.write deposit enough⟩
  | part front chunk back split inside short =>
    let deposit : Deposit :=
      { piece, failure := some _, left := front, whole := nofun,
        part := fun _ same => ⟨chunk, back, _, short, (Option.some.inj same).symm, split⟩ }
    exact ⟨deposit, rfl, rfl, holds.write deposit inside⟩

theorem putEach (holds : encoder.Holds buffer deposits) (pieces : List Piece) :
    ∃ made : List Deposit, made.map (·.piece) = pieces ∧ made.map (·.failure) = (encoder.putEach pieces).1 ∧
      (encoder.putEach pieces).2.Holds buffer (deposits ++ made) := by
  induction pieces generalizing encoder deposits with
  | nil => exact ⟨[], rfl, rfl, by rwa [List.append_nil]⟩
  | cons piece rest ih =>
    obtain ⟨deposit, own, failure, next⟩ := holds.put piece
    obtain ⟨made, others, failures, last⟩ := ih next
    refine ⟨deposit :: made, ?_, ?_, ?_⟩
    · rw [List.map_cons, own, others]
    · rw [List.map_cons, failure, failures]
      rfl
    · rw [List.append_assoc, List.singleton_append] at last
      exact last

end Holds

/-- After any number of the pieces handed to an encoder, each has made one deposit, and the buffer holds the
deposits and nothing else that it did not hold at the start. A piece that failed left less than its encoding. -/
theorem putEach_deposits (buffer : List UInt8) (done later : List Piece) :
    ∃ failures encoder, ∃ deposits : List Deposit,
      (start buffer).putEach done = (failures, encoder) ∧
      (start buffer).putEach (done ++ later) =
        (failures ++ (encoder.putEach later).1, (encoder.putEach later).2) ∧
      deposits.map (·.piece) = done ∧ deposits.map (·.failure) = failures ∧
      (∀ deposit ∈ deposits, deposit.failure ≠ none →
        deposit.left.bytes <+: deposit.piece.chunks.bytes ∧
          deposit.left.bytes ≠ deposit.piece.chunks.bytes) ∧
      encoder.Holds buffer deposits := by
  obtain ⟨deposits, pieces, failures, holds⟩ := (start_holds buffer).putEach done
  rw [List.nil_append] at holds
  exact ⟨_, _, deposits, rfl, putEach_append _ done later, pieces, failures,
    fun deposit _ failed => deposit.proper failed, holds⟩

/-- A list of texts breaks off in front of its second text, and a byte that has room comes next. -/
example :
    ((start (List.replicate 20 0xaa)).putEach [.value ⟨.sequence .text, ["a", "bcd"]⟩, .raw [7]]).1 =
      [some (.bufferOverflow 11 3), none] := by
  decide

end Encoder

end SharedRecords.Wire
