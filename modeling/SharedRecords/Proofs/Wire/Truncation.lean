import SharedRecords.Proofs.Wire.Decoding
import SharedRecords.Proofs.Wire.RoundTrip

/-!
Messages that are cut off. Where a reader finds all the bytes that it asks for, more of them behind change
nothing. So a reader that takes a whole message for its value can only find a part of it too short: a value or
another fault in that part would stand with the rest of the message behind it as well.
-/

namespace SharedRecords.Wire

variable {α β : Type}

/-- The reader stops for want of bytes, or it does not matter that there are more. -/
inductive Reader.Extends (reader : Reader α) (front more : List UInt8) (position : Nat) : Prop where
  | short (needed remaining : Nat) (later : Cursor) (missing : remaining < needed)
      (read : reader ⟨.ofList front, position⟩ = (.error (.truncated needed remaining), later))
  | same (result : Except Error α) (rest : List UInt8) (later : Nat)
      (read : reader ⟨.ofList front, position⟩ = (result, ⟨.ofList rest, later⟩))
      (longer : reader ⟨.ofList (front ++ more), position⟩ = (result, ⟨.ofList (rest ++ more), later⟩))

/-- More bytes change nothing for the reader, unless it had too few. -/
def Reader.Steady (reader : Reader α) : Prop := ∀ front more position, reader.Extends front more position

namespace Reader.Steady

variable {reader : Reader α} {next : α → Reader β}

theorem pure (value : α) : Steady (Pure.pure value : Reader α) := by
  intro front more position
  exact .same _ _ _ rfl rfl

theorem fail (error : Error) : Steady (Reader.fail error : Reader α) := by
  intro front more position
  exact .same _ _ _ rfl rfl

theorem bind (first : Steady reader) (rest : ∀ value, Steady (next value)) : Steady (reader >>= next) := by
  intro front more position
  cases first front more position with
  | short needed remaining later missing read =>
    exact .short needed remaining later missing (bind_of_error read next)
  | same result left behind read longer =>
    cases result with
    | error error => exact .same _ _ _ (bind_of_error read next) (bind_of_error longer next)
    | ok value =>
      cases rest value left more behind with
      | short needed remaining later missing again =>
        exact .short needed remaining later missing ((bind_of_ok read next).trans again)
      | same result last later again beyond =>
        exact .same result last later ((bind_of_ok read next).trans again)
          ((bind_of_ok longer next).trans beyond)

theorem bytes (count : Nat) : Steady (Reader.bytes count) := by
  intro front more position
  by_cases enough : count ≤ front.length
  · obtain ⟨head, rest, rfl, width⟩ : ∃ head rest, front = head ++ rest ∧ head.length = count :=
      ⟨front.take count, front.drop count, (List.take_append_drop count front).symm,
        List.length_take_of_le enough⟩
    have read (rest : List UInt8) : Reader.bytes count ⟨.ofList (head ++ rest), position⟩ =
        (.ok head, ⟨.ofList rest, position + count⟩) := by
      change Reader.bytes count ⟨head ++ Payload.ofList rest, position⟩ = _
      exact bytes_of_append width
    refine .same (.ok head) rest (position + count) (read rest) ?_
    rw [List.append_assoc]
    exact read (rest ++ more)
  · have short : (Cursor.mk (.ofList front) position).remaining < count := Nat.lt_of_not_le enough
    exact .short _ _ _ short (bytes_of_short short)

theorem word : Steady Reader.word := (bytes wordLength).bind fun _ => .pure _

theorem text : Steady Reader.text := by
  refine word.bind fun length => (bytes length.toNat).bind fun front => ?_
  cases String.fromUTF8? ⟨front.toArray⟩ with
  | some value => exact .pure value
  | none => exact .fail .invalidUtf8

theorem truncated {message : Message} {value : α} {front back : List UInt8} (steady : Steady reader)
    (spelled : Spells message reader value) (split : message.bytes = front ++ back) (missing : back ≠ []) :
    ∃ needed remaining, remaining < needed ∧
      reader.run (.ofList front) = .error (.truncated needed remaining) := by
  cases steady front back 0 with
  | short needed remaining later shortage read =>
    exact ⟨needed, remaining, shortage, congrArg Prod.fst read⟩
  | same result rest later read longer =>
    -- the same result on the whole message would leave bytes of it behind, and none are left
    have whole := spelled (.ofList []) 0
    change reader ⟨.ofList (message.bytes ++ []), 0⟩ = _ at whole
    rw [List.append_nil, split, longer] at whole
    have nothing : rest ++ back = [] := congrArg (fun outcome => outcome.2.rest.bytes) whole
    exact absurd (List.append_eq_nil_iff.mp nothing).2 missing

end Reader.Steady

theorem Reader.Plain.steady {reader : Reader α} (plain : reader.Plain) : reader.Steady := by
  induction plain with
  | pure value => exact .pure value
  | word => exact .word
  | text => exact .text
  | bind first rest first_ih rest_ih => exact first_ih.bind rest_ih

/-- Whatever was written from the start of a buffer is found too short if the bytes end before it does, be it
inside a length, a text, a character or an element. A request to close has no bytes that could be missing. -/
theorem cut_off_truncated (buffer : List UInt8) (countable : buffer.length < UInt64.size) :
    (∀ (shape : Shape) (value : shape.Value) (encoder : Encoder) (cut : Nat),
      (Encoder.start buffer).put (shape.chunks value) = (none, encoder) → cut < encoder.position →
        ∃ needed remaining, remaining < needed ∧
          shape.reader.run (.ofList (encoder.buffer.take cut)) = .error (.truncated needed remaining)) ∧
    (∀ (request : Request) (encoder : Encoder) (cut : Nat),
      (Encoder.start buffer).put request.chunks = (none, encoder) → cut < encoder.position →
        ∃ needed remaining, remaining < needed ∧
          (Request.reader request.opcode).run (.ofList (encoder.buffer.take cut)) =
            .error (.truncated needed remaining)) := by
  have parts {message : Message} {encoder : Encoder} {cut : Nat}
      (written : (Encoder.start buffer).put message = (none, encoder)) (inside : cut < encoder.position) :
      message.bytes = encoder.buffer.take cut ++ message.bytes.drop cut ∧ message.bytes.drop cut ≠ [] := by
    obtain ⟨_, position, content⟩ := Encoder.put_start written
    rw [position, ← Message.bytes_length] at inside
    constructor
    · rw [content, List.take_append_of_le_length (Nat.le_of_lt inside), List.take_append_drop]
    · rw [Ne, List.drop_eq_nil_iff]
      exact Nat.not_le_of_lt inside
  constructor
  · intro shape value encoder cut written inside
    obtain ⟨split, missing⟩ := parts written inside
    obtain ⟨fits, _⟩ := Encoder.put_start written
    have spelled := (Readable.shape shape).spelled value (by omega)
    exact (Reader.Plain.shape shape).steady.truncated spelled split missing
  · intro request encoder cut written inside
    obtain ⟨split, missing⟩ := parts written inside
    obtain ⟨fits, _⟩ := Encoder.put_start written
    exact (Reader.Plain.request request.opcode).steady.truncated (request.spelled (by omega)) split missing

/-- A list of pairs of which the last byte of a letter of two bytes is missing. -/
theorem half_letter_truncated :
    (List.replicate 40 (0xff : UInt8)).length < UInt64.size ∧
    ∃ encoder, (Encoder.start (List.replicate 40 0xff)).put (Shape.record.chunks [⟨"é", "x"⟩]) =
        (none, encoder) ∧ 17 < encoder.position ∧
      ∃ needed remaining, remaining < needed ∧
        Shape.record.reader.run (.ofList (encoder.buffer.take 17)) = .error (.truncated needed remaining) := by
  have countable : (List.replicate 40 (0xff : UInt8)).length < UInt64.size := by decide
  let written := (Encoder.start (List.replicate 40 0xff)).put (Shape.record.chunks [⟨"é", "x"⟩])
  have inside : 17 < written.2.position := by decide
  exact ⟨countable, written.2, rfl, inside,
    (cut_off_truncated _ countable).1 .record [⟨"é", "x"⟩] written.2 17 rfl inside⟩

end SharedRecords.Wire
