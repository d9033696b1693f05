import SharedRecords.Wire.Encoder
import SharedRecords.Wire.Reply
import SharedRecords.Wire.Request

/-!
Reading undoes writing in place. Buffers are used again without being cleared, so a message is
always read with the remains of longer ones behind it. Lengths and counts travel as words, and a
message that is shorter than a word can count holds no length or count that a word could not.
-/

namespace SharedRecords.Wire

variable {α β : Type}

namespace Message

theorem size_append (first second : Message) : size (first ++ second) = size first + size second := by
  rw [← bytes_length, bytes_append, List.length_append, bytes_length, bytes_length]

theorem size_le_of_mem_flatMap {chunks : α → Message} {items : List α} {item : α}
    (member : item ∈ items) : size (chunks item) ≤ size (items.flatMap chunks) := by
  induction items with
  | nil => simp at member
  | cons first rest ih =>
    rw [List.flatMap_cons, size_append]
    rcases List.mem_cons.mp member with same | later
    · rw [same]
      exact Nat.le_add_right _ _
    · have inside := ih later
      omega

theorem length_le_size_flatMap {chunks : α → Message} (positive : ∀ item, 0 < size (chunks item))
    (items : List α) : items.length ≤ size (items.flatMap chunks) := by
  induction items with
  | nil => exact Nat.zero_le _
  | cons first rest ih =>
    have room := positive first
    rw [List.flatMap_cons, size_append, List.length_cons]
    omega

theorem fit_of_size_le {room : Nat} {message : Message} (fits : size message ≤ room) :
    fit room message = (message, none) := by
  induction message generalizing room with
  | nil => rfl
  | cons chunk rest ih =>
    simp only [size] at fits
    have later : fit (room - chunk.size) rest = (rest, none) := ih (by omega)
    simp only [fit, if_pos (show chunk.size ≤ room by omega), later]

end Message

/-! ## Messages and their readers -/

def Spells (message : Message) (reader : Reader α) (value : α) : Prop :=
  ∀ rest position, reader ⟨message.bytes ++ rest, position⟩ =
    (.ok value, ⟨rest, position + message.size⟩)

namespace Spells

theorem pure (value : α) : Spells [] (Pure.pure value) value := by
  intro rest position
  rfl

theorem bind {first second : Message} {reader : Reader α} {next : α → Reader β} {value : α} {result : β}
    (front : Spells first reader value) (back : Spells second (next value) result) :
    Spells (first ++ second) (reader >>= next) result := by
  intro rest position
  have bytes : (first ++ second).bytes ++ rest = first.bytes ++ (second.bytes ++ rest) := by
    rw [Message.bytes_append]
    change Payload.mk (first.bytes ++ second.bytes ++ rest.bytes) rest.zeros =
      Payload.mk (first.bytes ++ (second.bytes ++ rest.bytes)) rest.zeros
    rw [List.append_assoc]
  rw [bytes, Reader.bind_of_ok (front (second.bytes ++ rest) position), back, Message.size_append,
    Nat.add_assoc]

theorem map {message : Message} {reader : Reader α} {value : α} (spelled : Spells message reader value)
    (make : α → β) : Spells message (reader >>= fun value => Pure.pure (make value)) (make value) := by
  have whole : Spells (message ++ []) (reader >>= fun value => Pure.pure (make value)) (make value) :=
    spelled.bind (Spells.pure _)
  rw [List.append_nil] at whole
  exact whole

theorem raw (bytes : List UInt8) : Spells [.raw bytes] (Reader.bytes bytes.length) bytes := by
  intro rest position
  rw [Message.bytes_cons, Message.bytes_nil, List.append_nil]
  exact Reader.bytes_of_append rfl

theorem word (value : UInt64) : Spells [.word value] Reader.word value := by
  have front := Spells.raw (wordBytes value)
  rw [wordBytes_length] at front
  have whole := front.map fun bytes => UInt64.ofNat (ofLittleEndian bytes)
  have number : UInt64.ofNat (ofLittleEndian (wordBytes value)) = value := by
    have small : value.toNat < Nat.pow 256 wordLength := value.toNat_lt
    rw [wordBytes, ofLittleEndian_littleEndian, Nat.mod_eq_of_lt small, UInt64.ofNat_toNat]
  rw [number] at whole
  exact whole

theorem of_bytes {first second : Message} {reader : Reader α} {value : α}
    (same : first.bytes = second.bytes) (spelled : Spells first reader value) :
    Spells second reader value := by
  intro rest position
  rw [← same, ← Message.bytes_length second, ← same, Message.bytes_length]
  exact spelled rest position

theorem text {value : String} (countable : value.utf8ByteSize < UInt64.size) :
    Spells [.text value] Reader.text value := by
  have length : (UInt64.ofNat (textBytes value).length).toNat = (textBytes value).length := by
    rw [UInt64.toNat_ofNat', Chunk.textBytes_length]
    exact Nat.mod_eq_of_lt countable
  have decoded : String.fromUTF8? ⟨(textBytes value).toArray⟩ = some value := by
    change String.fromUTF8? value.toUTF8 = some value
    rw [String.fromUTF8?, String.toUTF8_eq_toByteArray, dif_pos value.isValidUTF8]
    rfl
  have same : Message.bytes ([.word (UInt64.ofNat (textBytes value).length)] ++ ([.raw (textBytes value)] ++ [])) =
      Message.bytes [.text value] := by
    simp [Chunk.bytes]
  have body := Spells.raw (textBytes value)
  rw [← length] at body
  unfold Reader.text
  refine of_bytes same ((Spells.word _).bind (body.bind ?_))
  rw [decoded]
  exact Spells.pure value

theorem manyOnto {chunks : α → Message} {reader : Reader α} (found items : List α)
    (spelled : ∀ item ∈ items, Spells (chunks item) reader item) :
    Spells (items.flatMap chunks) (reader.manyOnto items.length found) (found.reverse ++ items) := by
  induction items generalizing found with
  | nil =>
    intro rest position
    rw [List.append_nil]
    rfl
  | cons first rest ih =>
    have front := spelled first List.mem_cons_self
    have back := ih (first :: found) (fun item member => spelled item (List.mem_cons_of_mem _ member))
    rw [List.reverse_cons, List.append_assoc, List.singleton_append] at back
    have whole : Spells _ (reader >>= fun value => reader.manyOnto rest.length (value :: found)) _ :=
      front.bind back
    exact whole

theorem sequence {chunks : α → Message} {reader : Reader α} {items : List α}
    (countable : items.length < UInt64.size)
    (spelled : ∀ item ∈ items, Spells (chunks item) reader item) :
    Spells (sequenceChunks chunks items) reader.sequence items := by
  -- the reader knows the count by the word in front, which holds it without loss
  have count : (UInt64.ofNat items.length).toNat = items.length := by
    rw [UInt64.toNat_ofNat']
    exact Nat.mod_eq_of_lt countable
  have body := manyOnto [] items spelled
  rw [List.reverse_nil, List.nil_append] at body
  unfold sequenceChunks Reader.sequence
  generalize UInt64.ofNat items.length = number at count
  rw [← count] at body
  exact (word number).bind body

end Spells

/-- Values that take room and are read back, as long as their bytes can be counted. -/
structure Readable (chunks : α → Message) (reader : Reader α) : Prop where
  positive : ∀ value, 0 < (chunks value).size
  spelled : ∀ value, (chunks value).size < UInt64.size → Spells (chunks value) reader value

namespace Readable

theorem word : Readable (fun value => [.word value]) Reader.word where
  positive value := by
    simp only [Message.size, Chunk.size, wordLength]
    omega
  spelled value _ := Spells.word value

theorem text : Readable (fun value => [.text value]) Reader.text where
  positive value := by
    simp only [Message.size, Chunk.size, wordLength]
    omega
  spelled value countable := by
    simp only [Message.size, Chunk.size] at countable
    exact Spells.text (by omega)

theorem sequence {chunks : α → Message} {reader : Reader α} (element : Readable chunks reader) :
    Readable (sequenceChunks chunks) reader.sequence where
  positive items := by
    simp only [sequenceChunks, Message.size, Chunk.size, wordLength]
    omega
  spelled items countable := by
    simp only [sequenceChunks, Message.size, Chunk.size] at countable
    apply Spells.sequence
    · have fewer := Message.length_le_size_flatMap element.positive items
      omega
    · intro item member
      have part : Message.size (chunks item) ≤ Message.size (items.flatMap chunks) :=
        Message.size_le_of_mem_flatMap member
      exact element.spelled item (by omega)

theorem both {γ : Type} {first : α → Message} {second : β → Message} {front : Reader α}
    {back : Reader β} (readableFirst : Readable first front) (readableSecond : Readable second back)
    (left : γ → α) (right : γ → β) (make : α → β → γ)
    (made : ∀ value, make (left value) (right value) = value) :
    Readable (fun value => first (left value) ++ second (right value))
      (do let a ← front; let b ← back; Pure.pure (make a b)) where
  positive value := by
    have room := readableFirst.positive (left value)
    rw [Message.size_append]
    omega
  spelled value countable := by
    rw [Message.size_append] at countable
    have start := readableFirst.spelled (left value) (by omega)
    have rest := readableSecond.spelled (right value) (by omega)
    have whole : Spells _ (front >>= fun a => back >>= fun b => Pure.pure (make a b)) _ :=
      start.bind (rest.map (make (left value)))
    rw [made] at whole
    exact whole

theorem pair : Readable pairChunks Reader.pair :=
  both text text Pair.field Pair.value Pair.mk fun _ => rfl

theorem texts : Readable textsChunks (Reader.sequence Reader.text) := text.sequence

theorem table : Readable tableChunks Reader.table :=
  both text texts Table.name Table.columns Table.mk fun _ => rfl

theorem schema : Readable schemaChunks Reader.schema :=
  both table.sequence text Schema.tables Schema.location Schema.mk fun _ => rfl

theorem record : Readable recordChunks Reader.record := pair.sequence

theorem rows : Readable rowsChunks Reader.rows := record.sequence

theorem shape (shape : Shape) : Readable shape.chunks shape.reader := by
  induction shape with
  | word => exact word
  | text => exact text
  | pair => exact pair
  | table => exact table
  | schema => exact schema
  | sequence element ih => exact ih.sequence

end Readable

theorem Request.spelled (request : Request) (countable : request.chunks.size < UInt64.size) :
    Spells request.chunks (Request.reader request.opcode) request := by
  cases request with
  | read table key fields =>
    simp only [Request.chunks, Message.size, Chunk.size] at countable
    have last := (Readable.texts.spelled fields (by omega)).map (Request.read table key)
    exact (Spells.text (by omega)).bind ((Spells.text (by omega)).bind last)
  | scan table start count fields =>
    simp only [Request.chunks, Message.size, Chunk.size] at countable
    have last := (Readable.texts.spelled fields (by omega)).map (Request.scan table start count)
    exact (Spells.text (by omega)).bind ((Spells.text (by omega)).bind ((Spells.word count).bind last))
  | insert table key values =>
    simp only [Request.chunks, Message.size, Chunk.size] at countable
    have last := (Readable.record.spelled values (by omega)).map (Request.insert table key)
    exact (Spells.text (by omega)).bind ((Spells.text (by omega)).bind last)
  | update table key values =>
    simp only [Request.chunks, Message.size, Chunk.size] at countable
    have last := (Readable.record.spelled values (by omega)).map (Request.update table key)
    exact (Spells.text (by omega)).bind ((Spells.text (by omega)).bind last)
  | delete table key =>
    simp only [Request.chunks, Message.size, Chunk.size] at countable
    have name : Spells [.text key] Reader.text key := Spells.text (by omega)
    have last := name.map (Request.delete table)
    exact (Spells.text (by omega)).bind last
  | close => exact Spells.pure _

/-! ## In place -/

/-- A message that was written whole stands at the start of the buffer, in front of what stood
there before. -/
theorem Encoder.put_start {buffer : List UInt8} {message : Message} {encoder : Encoder}
    (written : (Encoder.start buffer).put message = (none, encoder)) :
    message.size ≤ buffer.length ∧ encoder.position = message.size ∧
      encoder.buffer = message.bytes ++ buffer.drop message.size := by
  have whole : ((Encoder.start buffer).put message).1 = none := congrArg Prod.fst written
  have fits := (Encoder.put_succeeds_iff _ _).mp whole
  have same : ((Encoder.start buffer).put message).2 = encoder := congrArg Prod.snd written
  rw [Encoder.put, Message.fit_of_size_le fits] at same
  subst same
  refine ⟨fits, ?_, ?_⟩
  · simp [Encoder.write, Encoder.start]
  · simp [Encoder.write, Encoder.start]

theorem Spells.in_place {message : Message} {reader : Reader α} {value : α} {buffer : List UInt8}
    {encoder : Encoder} (spelled : Spells message reader value)
    (written : (Encoder.start buffer).put message = (none, encoder)) :
    reader (.start (.ofList encoder.buffer)) =
      (.ok value, ⟨.ofList (buffer.drop encoder.position), encoder.position⟩) := by
  obtain ⟨_, position, content⟩ := Encoder.put_start written
  have read := spelled (.ofList (buffer.drop message.size)) 0
  rw [Nat.zero_add] at read
  rw [content, position]
  exact read

theorem Spells.run {message : Message} {reader : Reader α} {value : α}
    (spelled : Spells message reader value) (rest : Payload) :
    reader.run (message.bytes ++ rest) = .ok value := by
  unfold Reader.run Cursor.start
  rw [spelled rest 0]

/-- What was written from the start of a buffer is read back from there, and the reader stops where
the writer did: what the buffer held before and behind is never looked at. -/
theorem reads_back_in_place (buffer : List UInt8) (countable : buffer.length < UInt64.size) :
    (∀ (shape : Shape) (value : shape.Value) (encoder : Encoder),
      (Encoder.start buffer).put (shape.chunks value) = (none, encoder) →
        shape.reader (.start (.ofList encoder.buffer)) =
          (.ok value, ⟨.ofList (buffer.drop encoder.position), encoder.position⟩)) ∧
    (∀ (request : Request) (encoder : Encoder),
      (Encoder.start buffer).put request.chunks = (none, encoder) →
        Request.reader request.opcode (.start (.ofList encoder.buffer)) =
          (.ok request, ⟨.ofList (buffer.drop encoder.position), encoder.position⟩)) := by
  constructor
  · intro shape value encoder written
    obtain ⟨fits, _⟩ := Encoder.put_start written
    exact ((Readable.shape shape).spelled value (by omega)).in_place written
  · intro request encoder written
    obtain ⟨fits, _⟩ := Encoder.put_start written
    exact (request.spelled (by omega)).in_place written

/-- A list of lists of texts, written over the remains of a longer message. -/
theorem reads_back_over_remains :
    (List.replicate 40 (0xff : UInt8)).length < UInt64.size ∧
    ∃ encoder, (Encoder.start (List.replicate 40 0xff)).put
        ((Shape.sequence (.sequence .text)).chunks [["a"], []]) = (none, encoder) ∧
      encoder.position = 33 ∧
      (Shape.sequence (.sequence .text)).reader (.start (.ofList encoder.buffer)) =
        (.ok [["a"], []], ⟨.ofList ((List.replicate 40 0xff).drop 33), 33⟩) := by
  have countable : (List.replicate 40 (0xff : UInt8)).length < UInt64.size := by decide
  let written := (Encoder.start (List.replicate 40 0xff)).put
    ((Shape.sequence (.sequence .text)).chunks [["a"], []])
  exact ⟨countable, written.2, rfl, rfl,
    (reads_back_in_place _ countable).1 (.sequence (.sequence .text)) [["a"], []] written.2 rfl⟩

end SharedRecords.Wire
