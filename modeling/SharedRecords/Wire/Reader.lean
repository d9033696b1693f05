import SharedRecords.Wire.Chunk
import SharedRecords.Wire.Payload

/-!
Reading payloads. A reader moves a cursor over bytes and answers with a value or an error;
what it consumed before an error stays consumed.
-/

namespace SharedRecords.Wire

/-- What is not read yet and the number of bytes that are. -/
structure Cursor where
  rest : Payload
  position : Nat
  deriving DecidableEq, Repr, Inhabited

namespace Cursor

def start (payload : Payload) : Cursor := ⟨payload, 0⟩

def remaining (cursor : Cursor) : Nat := cursor.rest.length

end Cursor

def Reader (α : Type) := Cursor → Except Error α × Cursor

namespace Reader

variable {α β : Type}

def fail (error : Error) : Reader α := fun cursor => (.error error, cursor)

instance : Monad Reader where
  pure value := fun cursor => (.ok value, cursor)
  bind reader next := fun cursor =>
    match reader cursor with
    | (.ok value, later) => next value later
    | (.error error, later) => (.error error, later)

@[simp] theorem pure_apply (value : α) (cursor : Cursor) :
    (pure value : Reader α) cursor = (.ok value, cursor) := rfl

theorem bind_apply (reader : Reader α) (next : α → Reader β) (cursor : Cursor) :
    (reader >>= next) cursor =
      match reader cursor with
      | (.ok value, later) => next value later
      | (.error error, later) => (.error error, later) := rfl

theorem bind_of_ok {reader : Reader α} {cursor later : Cursor} {value : α}
    (read : reader cursor = (.ok value, later)) (next : α → Reader β) :
    (reader >>= next) cursor = next value later := by
  rw [bind_apply, read]

theorem bind_of_error {reader : Reader α} {cursor later : Cursor} {error : Error}
    (failed : reader cursor = (.error error, later)) (next : α → Reader β) :
    (reader >>= next) cursor = (.error error, later) := by
  rw [bind_apply, failed]

def run (reader : Reader α) (payload : Payload) : Except Error α := (reader (.start payload)).1

def position : Reader Nat := fun cursor => (.ok cursor.position, cursor)

def remaining : Reader Nat := fun cursor => (.ok cursor.remaining, cursor)

/-- The next bytes, consumed only if they are all there. -/
def bytes (count : Nat) : Reader (List UInt8) := fun cursor =>
  match cursor.rest.split? count with
  | some (front, rest) => (.ok front, ⟨rest, cursor.position + count⟩)
  | none => (.error (.truncated count cursor.remaining), cursor)

def word : Reader UInt64 := do
  let front ← bytes wordLength
  pure (UInt64.ofNat (ofLittleEndian front))

/-- Bytes that are not UTF-8 are consumed before they are refused. -/
def text : Reader String := do
  let length ← word
  let front ← bytes length.toNat
  match String.fromUTF8? ⟨front.toArray⟩ with
  | some value => pure value
  | none => fail .invalidUtf8

/-- One reading after another until the count is reached or one fails. -/
def manyOnto (reader : Reader α) : Nat → List α → Reader (List α)
  | 0, found => fun cursor => (.ok found.reverse, cursor)
  | count + 1, found => fun cursor =>
    match reader cursor with
    | (.ok value, later) => manyOnto reader count (value :: found) later
    | (.error error, later) => (.error error, later)

def many (reader : Reader α) (count : Nat) : Reader (List α) := manyOnto reader count []

def sequence (reader : Reader α) : Reader (List α) := do
  let count ← word
  many reader count.toNat

theorem bytes_of_append {front : List UInt8} {rest : Payload} {count position : Nat}
    (width : front.length = count) :
    bytes count ⟨front ++ rest, position⟩ = (.ok front, ⟨rest, position + count⟩) := by
  subst width
  simp only [bytes, Payload.split?_append]

theorem bytes_of_short {cursor : Cursor} {count : Nat} (short : cursor.remaining < count) :
    bytes count cursor = (.error (.truncated count cursor.remaining), cursor) := by
  simp only [bytes, (Payload.split?_eq_none_iff cursor.rest count).2 short]

end Reader

end SharedRecords.Wire
