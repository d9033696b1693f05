import SharedRecords.Proofs.Wire.RoundTrip

/-!
The length of a value is worked out without writing it. It is the number of bytes of the value's chunks,
and never below the least length of the value's shape.
-/

namespace SharedRecords.Wire

namespace Message

theorem size_flatMap {α : Type} (chunks : α → Message) (items : List α) :
    size (items.flatMap chunks) = Number.total (items.map fun item => size (chunks item)) := by
  induction items with
  | nil => rfl
  | cons first rest ih => rw [List.flatMap_cons, size_append, ih, List.map_cons, Number.total_cons]

theorem size_sequenceChunks {α : Type} (chunks : α → Message) (items : List α) :
    size (sequenceChunks chunks items) =
      wordLength + Number.total (items.map fun item => size (chunks item)) := by
  rw [sequenceChunks, size, size_flatMap]
  rfl

theorem size_textsChunks (texts : List String) :
    size (textsChunks texts) = wordLength + Number.total (texts.map Shape.textLength) :=
  size_sequenceChunks _ texts

theorem size_tableChunks (table : Table) : size (tableChunks table) = Shape.tableLength table := by
  rw [tableChunks, size, size_textsChunks]
  rfl

theorem size_schemaChunks (schema : Schema) : size (schemaChunks schema) = Shape.schemaLength schema := by
  rw [schemaChunks, size_append, size_sequenceChunks]
  simp only [size_tableChunks]
  rfl

end Message

theorem Shape.size_chunks (shape : Shape) (value : shape.Value) :
    (shape.chunks value).size = shape.encodedLength value := by
  induction shape with
  | word => rfl
  | text => rfl
  | pair => rfl
  | table => exact Message.size_tableChunks value
  | schema => exact Message.size_schemaChunks value
  | sequence element ih =>
    rw [chunks, Message.size_sequenceChunks]
    simp only [ih]
    rfl

theorem Shape.minLength_le_encodedLength (shape : Shape) (value : shape.Value) :
    shape.minLength ≤ shape.encodedLength value := by
  cases shape with
  | word | text | sequence =>
    simp only [minLength, encodedLength, textLength]
    omega
  | pair | table | schema =>
    simp only [minLength, encodedLength, pairLength, tableLength, schemaLength, textLength]
    omega

theorem Reply.size_chunks (reply : Reply) : reply.chunks.size = reply.encodedLength := by
  cases reply with
  | record value => exact Shape.record.size_chunks value
  | rows value => exact Shape.rows.size_chunks value
  | empty => rfl

end SharedRecords.Wire
