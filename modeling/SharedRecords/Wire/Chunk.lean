import SharedRecords.Wire.Error
import SharedRecords.Wire.LittleEndian

/-!
The primitive values of the wire format. Every payload is a list of chunks, and a chunk is
written whole or not at all: a text is never separated from its length.
-/

namespace SharedRecords.Wire

/-- One primitive value. -/
inductive Chunk where
  /-- Eight bytes, least significant first. -/
  | word (value : UInt64)
  /-- The byte length as a word, then the UTF-8 bytes. -/
  | text (value : String)
  | raw (bytes : List UInt8)
  deriving DecidableEq, Repr

def wordLength : Nat := 8

def textBytes (text : String) : List UInt8 := text.toUTF8.data.toList

def wordBytes (value : UInt64) : List UInt8 := littleEndian wordLength value.toNat

@[simp] theorem wordBytes_length (value : UInt64) : (wordBytes value).length = wordLength := by
  simp [wordBytes]

namespace Chunk

def bytes : Chunk → List UInt8
  | word value => wordBytes value
  | text value => wordBytes (UInt64.ofNat (textBytes value).length) ++ textBytes value
  | raw bytes => bytes

def size : Chunk → Nat
  | word _ => wordLength
  | text value => wordLength + value.utf8ByteSize
  | raw bytes => bytes.length

theorem textBytes_length (value : String) : (textBytes value).length = value.utf8ByteSize := by
  rw [← String.size_toByteArray]
  rfl

@[simp] theorem bytes_length (chunk : Chunk) : chunk.bytes.length = chunk.size := by
  cases chunk with
  | word value => simp [bytes, size]
  | text value => simp [bytes, size, textBytes_length]
  | raw bytes => rfl

end Chunk

abbrev Message := List Chunk

namespace Message

def bytes (message : Message) : List UInt8 := message.flatMap Chunk.bytes

def size : Message → Nat
  | [] => 0
  | chunk :: rest => chunk.size + size rest

@[simp] theorem bytes_nil : bytes [] = [] := rfl

@[simp] theorem bytes_cons (chunk : Chunk) (rest : Message) :
    bytes (chunk :: rest) = chunk.bytes ++ bytes rest := by
  simp [bytes]

theorem bytes_append (first second : Message) : bytes (first ++ second) = bytes first ++ bytes second := by
  simp [bytes]

@[simp] theorem bytes_length (message : Message) : (bytes message).length = size message := by
  induction message with
  | nil => rfl
  | cons chunk rest ih => simp [size, ih]

def fit : Nat → Message → Message × Option Error
  | _, [] => ([], none)
  | room, chunk :: rest =>
    if chunk.size ≤ room then
      let (taken, failure) := fit (room - chunk.size) rest
      (chunk :: taken, failure)
    else ([], some (.bufferOverflow chunk.size room))

theorem size_fit_le (room : Nat) (message : Message) : size (fit room message).1 ≤ room := by
  induction message generalizing room with
  | nil => simp [fit, size]
  | cons chunk tail ih =>
    by_cases fits : chunk.size ≤ room
    · have rest := ih (room - chunk.size)
      simp only [fit, if_pos fits, size]
      omega
    · simp [fit, fits, size]

theorem fit_failure_eq_none_iff (room : Nat) (message : Message) :
    (fit room message).2 = none ↔ size message ≤ room := by
  induction message generalizing room with
  | nil => simp [fit, size]
  | cons chunk tail ih =>
    by_cases fits : chunk.size ≤ room
    · simp only [fit, if_pos fits, size, ih]
      omega
    · simp only [fit, if_neg fits, size]
      simp
      omega

end Message

end SharedRecords.Wire
