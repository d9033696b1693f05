import SharedRecords.Client.Basic
import SharedRecords.Wire.Shape

/-!
Readers made of the primitive ones. However they are put together, and whatever they make of the errors
they meet, each byte is read or left, also behind an error, and what they complain of is that bytes are
missing or are no text. That a buffer has no room is said by writers alone.
-/

namespace SharedRecords.Wire.Reader

variable {α β : Type} {reader : Reader α}

/-- What a reading comes to, an error included, as a value: the caller goes on from there. -/
def attempt (reader : Reader α) : Reader (Except Error α) := fun cursor =>
  let (result, later) := reader cursor
  (.ok result, later)

/-- Readers that read words and texts and ask where they are. An error ends the reading, or is looked at, and
may be given again later; no reader makes up an error of its own. -/
inductive Built : {α : Type} → Reader α → Prop where
  | pure {α : Type} (value : α) : Built (Pure.pure value : Reader α)
  | position : Built position
  | remaining : Built remaining
  | word : Built word
  | text : Built text
  | bind {α β : Type} {reader : Reader α} {next : α → Reader β} (first : Built reader)
      (rest : ∀ value, Built (next value)) : Built (reader >>= next)
  | attempt {α : Type} {reader : Reader α} (inner : Built reader) : Built (Reader.attempt reader)
  | again {α β : Type} {reader : Reader α} {cursor : Cursor} {error : Error} (inner : Built reader)
      (met : (reader cursor).1 = .error error) : Built (fail error : Reader β)

/-! ## Errors -/

theorem truncated_of_bytes {count : Nat} {cursor : Cursor} {error : Error}
    (failed : (bytes count cursor).1 = .error error) : error = .truncated count cursor.remaining := by
  unfold bytes at failed
  split at failed
  · contradiction
  · exact (Except.error.inj failed).symm

theorem error_of_bind {next : α → Reader β} {cursor : Cursor} {error : Error}
    (failed : ((reader >>= next) cursor).1 = .error error) :
    (reader cursor).1 = .error error ∨
      ∃ value later, reader cursor = (.ok value, later) ∧ (next value later).1 = .error error := by
  rw [bind_apply] at failed
  rcases read : reader cursor with ⟨result, later⟩
  rw [read] at failed
  cases result with
  | ok value => exact .inr ⟨value, later, rfl, failed⟩
  | error other =>
    obtain rfl := Except.error.inj failed
    exact .inl rfl

theorem error_of_word {cursor : Cursor} {error : Error} (failed : (word cursor).1 = .error error) :
    error = .truncated wordLength cursor.remaining := by
  rcases error_of_bind failed with short | ⟨front, later, _, failed⟩
  · exact truncated_of_bytes short
  · contradiction

theorem error_of_text {cursor : Cursor} {error : Error} (failed : (text cursor).1 = .error error) :
    (∃ needed remaining, error = .truncated needed remaining) ∨ error = .invalidUtf8 := by
  rcases error_of_bind failed with short | ⟨length, behind, _, failed⟩
  · exact .inl ⟨_, _, error_of_word short⟩
  rcases error_of_bind failed with short | ⟨front, later, _, failed⟩
  · exact .inl ⟨_, _, truncated_of_bytes short⟩
  · cases decoded : String.fromUTF8? ⟨front.toArray⟩ with
    | some value =>
      rw [decoded] at failed
      contradiction
    | none =>
      rw [decoded] at failed
      exact .inr (Except.error.inj failed).symm

/-! ## Cursors -/

/-- Wherever the reader stops, the bytes read and those that are left are as many as they were. -/
def Conserves (reader : Reader α) : Prop :=
  ∀ cursor, (reader cursor).2.position + (reader cursor).2.remaining = cursor.position + cursor.remaining

namespace Conserves

theorem bytes (count : Nat) : Conserves (Reader.bytes count) := by
  intro cursor
  unfold Reader.bytes
  cases found : cursor.rest.split? count with
  | none => rfl
  | some parts =>
    obtain ⟨width, content⟩ := Payload.toList_of_split? found
    have lengths := congrArg List.length content
    rw [List.length_append, width, Payload.length_toList, Payload.length_toList] at lengths
    simp only [Cursor.remaining]
    omega

theorem bind {next : α → Reader β} (first : Conserves reader) (rest : ∀ value, Conserves (next value)) :
    Conserves (reader >>= next) := by
  intro cursor
  have front := first cursor
  rw [bind_apply]
  rcases read : reader cursor with ⟨_ | value, later⟩
  · rw [read] at front
    exact front
  · rw [read] at front
    exact (rest value later).trans front

theorem word : Conserves Reader.word := (bytes wordLength).bind fun _ _ => rfl

theorem text : Conserves Reader.text := by
  refine word.bind fun length => (bytes length.toNat).bind fun front => ?_
  cases String.fromUTF8? ⟨front.toArray⟩ with
  | some value => exact fun _ => rfl
  | none => exact fun _ => rfl

end Conserves

namespace Built

theorem conserves (built : Built reader) : reader.Conserves := by
  induction built with
  | pure value => exact fun _ => rfl
  | position => exact fun _ => rfl
  | remaining => exact fun _ => rfl
  | word => exact .word
  | text => exact .text
  | bind first rest first_ih rest_ih => exact first_ih.bind rest_ih
  | attempt inner ih => exact ih
  | again inner met ih => exact fun _ => rfl

theorem error_cases (built : Built reader) {cursor : Cursor} {error : Error}
    (failed : (reader cursor).1 = .error error) :
    (∃ needed remaining, error = .truncated needed remaining) ∨ error = .invalidUtf8 := by
  induction built generalizing cursor error with
  | pure value => contradiction
  | position => contradiction
  | remaining => contradiction
  | word => exact .inl ⟨_, _, error_of_word failed⟩
  | text => exact error_of_text failed
  | bind first rest first_ih rest_ih =>
    rcases error_of_bind failed with failed | ⟨value, later, _, failed⟩
    · exact first_ih failed
    · exact rest_ih value failed
  | attempt inner ih => contradiction
  | again inner met ih =>
    obtain rfl := Except.error.inj failed
    exact ih met

theorem isOverflow_eq_false (built : Built reader) {cursor : Cursor} {error : Error}
    (failed : (reader cursor).1 = .error error) : error.isOverflow = false := by
  rcases built.error_cases failed with ⟨needed, remaining, rfl⟩ | rfl
  · rfl
  · rfl

end Built

/-! ## The readers of the wire format -/

inductive Plain : {α : Type} → Reader α → Prop where
  | pure {α : Type} (value : α) : Plain (Pure.pure value : Reader α)
  | word : Plain word
  | text : Plain text
  | bind {α β : Type} {reader : Reader α} {next : α → Reader β} (first : Plain reader)
      (rest : ∀ value, Plain (next value)) : Plain (reader >>= next)

namespace Plain

theorem built (plain : Plain reader) : Built reader := by
  induction plain with
  | pure value => exact .pure value
  | word => exact .word
  | text => exact .text
  | bind first rest first_ih rest_ih => exact .bind first_ih rest_ih

theorem many (plain : Plain reader) (count : Nat) : Plain (reader.many count) := by
  have onto : ∀ found, Plain (reader.manyOnto count found) := by
    induction count with
    | zero => exact fun found => .pure found.reverse
    | succ count ih => exact fun found => .bind plain fun value => ih (value :: found)
  exact onto []

theorem sequence (plain : Plain reader) : Plain reader.sequence :=
  .bind .word fun count => many plain count.toNat

theorem pair : Plain Reader.pair := .bind .text fun _ => .bind .text fun _ => .pure _

theorem table : Plain Reader.table := .bind .text fun _ => .bind (sequence .text) fun _ => .pure _

theorem schema : Plain Reader.schema := .bind (sequence table) fun _ => .bind .text fun _ => .pure _

theorem shape : ∀ shape : Shape, Plain shape.reader
  | .word => .word
  | .text => .text
  | .pair => pair
  | .table => table
  | .schema => schema
  | .sequence element => sequence (shape element)

theorem items : ∀ shapes : List Shape, Plain (Reader.items shapes)
  | [] => .pure []
  | first :: rest => .bind (shape first) fun _ => .bind (items rest) fun _ => .pure _

theorem request (opcode : Opcode) : Plain (Request.reader opcode) := by
  cases opcode with
  | read => exact .bind .text fun _ => .bind .text fun _ => .bind (sequence .text) fun _ => .pure _
  | scan =>
    exact .bind .text fun _ => .bind .text fun _ => .bind .word fun _ => .bind (sequence .text) fun _ => .pure _
  | insert | update => exact .bind .text fun _ => .bind .text fun _ => .bind (sequence pair) fun _ => .pure _
  | delete => exact .bind .text fun _ => .bind .text fun _ => .pure _
  | close => exact .pure _

theorem reply (opcode : Opcode) : Plain (Client.replyReader opcode) := by
  cases opcode with
  | read => exact .bind (sequence pair) fun _ => .pure _
  | scan => exact .bind (sequence (sequence pair)) fun _ => .pure _
  | insert | update | delete | close => exact .pure _

theorem response (opcode : Opcode) (status : Status) : Plain (Client.responseReader opcode status) := by
  cases status with
  | ok => exact .bind (reply opcode) fun _ => .pure _
  | failed => exact .bind .text fun _ => .pure _
  | notFound | conflict | aborted => exact .pure _

end Plain

end SharedRecords.Wire.Reader
