import SharedRecords.Proofs.Wire.RoundTrip

/-!
Reading accepts nothing but what writing makes. A reader that comes to a value has passed the bytes of
that value's message and no others, so each value has one spelling. Nothing is assumed of the bytes: the
lengths and counts among them are those of the values that they lead to.
-/

namespace SharedRecords.Wire

variable {α β : Type}

/-- The bytes that a cursor has moved over are those of the message. -/
structure Cursor.Passes (cursor later : Cursor) (message : Message) : Prop where
  bytes : cursor.rest.toList = message.bytes ++ later.rest.toList
  position : later.position = cursor.position + message.size

namespace Cursor.Passes

variable {cursor between later : Cursor} {first second : Message}

theorem refl (cursor : Cursor) : cursor.Passes cursor [] where
  bytes := rfl
  position := rfl

theorem trans (front : cursor.Passes between first) (back : between.Passes later second) :
    cursor.Passes later (first ++ second) where
  bytes := by rw [front.bytes, back.bytes, Message.bytes_append, List.append_assoc]
  position := by rw [back.position, front.position, Message.size_append, Nat.add_assoc]

theorem of_bytes (passes : cursor.Passes later first) (same : first.bytes = second.bytes) :
    cursor.Passes later second where
  bytes := by rw [passes.bytes, same]
  position := by
    rw [passes.position, ← Message.bytes_length first, same, Message.bytes_length]

end Cursor.Passes

theorem Reader.pure_eq_ok {value result : α} {cursor later : Cursor}
    (read : (pure value : Reader α) cursor = (.ok result, later)) : result = value ∧ later = cursor := by
  obtain ⟨same, rfl⟩ := Prod.mk.inj read
  exact ⟨(Except.ok.inj same).symm, rfl⟩

theorem Reader.bind_eq_ok {reader : Reader α} {next : α → Reader β} {cursor later : Cursor} {result : β}
    (read : (reader >>= next) cursor = (.ok result, later)) :
    ∃ value between, reader cursor = (.ok value, between) ∧ next value between = (.ok result, later) := by
  rcases front : reader cursor with ⟨_ | value, between⟩
  · rw [Reader.bind_of_error front] at read
    cases congrArg Prod.fst read
  · rw [Reader.bind_of_ok front] at read
    exact ⟨value, between, rfl, read⟩

def Exact (chunks : α → Message) (reader : Reader α) : Prop :=
  ∀ cursor later value, reader cursor = (.ok value, later) → cursor.Passes later (chunks value)

namespace Exact

theorem bytes {cursor later : Cursor} {count : Nat} {front : List UInt8}
    (read : Reader.bytes count cursor = (.ok front, later)) :
    front.length = count ∧ cursor.Passes later [.raw front] := by
  unfold Reader.bytes at read
  cases found : cursor.rest.split? count with
  | none =>
    rw [found] at read
    cases congrArg Prod.fst read
  | some parts =>
    rw [found] at read
    obtain ⟨rfl, rfl⟩ := Reader.pure_eq_ok read
    obtain ⟨width, content⟩ := Payload.toList_of_split? found
    refine ⟨width, ?_, ?_⟩
    · simp [Chunk.bytes, content]
    · simp [Message.size, Chunk.size, width]

theorem word : Exact (fun value => [.word value]) Reader.word := by
  intro cursor later value read
  obtain ⟨front, between, taken, made⟩ := Reader.bind_eq_ok read
  obtain ⟨width, passes⟩ := bytes taken
  obtain ⟨rfl, rfl⟩ := Reader.pure_eq_ok made
  apply passes.of_bytes
  -- eight bytes spell a number below the size of a word, and it spells them
  have small := ofLittleEndian_lt front
  rw [width] at small
  have number : (UInt64.ofNat (ofLittleEndian front)).toNat = ofLittleEndian front :=
    UInt64.toNat_ofNat_of_lt' small
  have spelling := littleEndian_ofLittleEndian front
  rw [width] at spelling
  simp [Chunk.bytes, wordBytes, number, spelling]

theorem textBytes_of_fromUTF8? {front : List UInt8} {value : String}
    (decoded : String.fromUTF8? ⟨front.toArray⟩ = some value) : textBytes value = front := by
  unfold String.fromUTF8? at decoded
  split at decoded
  · obtain rfl := Option.some.inj decoded
    rfl
  · contradiction

theorem text : Exact (fun value => [.text value]) Reader.text := by
  intro cursor later value read
  obtain ⟨length, between, counted, rest⟩ := Reader.bind_eq_ok read
  obtain ⟨front, behind, taken, made⟩ := Reader.bind_eq_ok rest
  obtain ⟨width, passes⟩ := bytes taken
  cases decoded : String.fromUTF8? ⟨front.toArray⟩ with
  | none =>
    rw [decoded] at made
    cases congrArg Prod.fst made
  | some found =>
    rw [decoded] at made
    obtain ⟨rfl, rfl⟩ := Reader.pure_eq_ok made
    have content := textBytes_of_fromUTF8? decoded
    have number : UInt64.ofNat front.length = length := by rw [width, UInt64.ofNat_toNat]
    apply ((word _ _ _ counted).trans passes).of_bytes
    simp [Chunk.bytes, content, number]

theorem manyOnto {chunks : α → Message} {reader : Reader α} (exact : Exact chunks reader) {count : Nat}
    {found result : List α} {cursor later : Cursor}
    (read : reader.manyOnto count found cursor = (.ok result, later)) :
    ∃ items, result = found.reverse ++ items ∧ items.length = count ∧
      cursor.Passes later (items.flatMap chunks) := by
  induction count generalizing found cursor with
  | zero =>
    obtain ⟨rfl, rfl⟩ := Reader.pure_eq_ok read
    exact ⟨[], (List.append_nil _).symm, rfl, .refl _⟩
  | succ count ih =>
    unfold Reader.manyOnto at read
    rcases first : reader cursor with ⟨_ | value, between⟩
    · rw [first] at read
      cases congrArg Prod.fst read
    · rw [first] at read
      obtain ⟨items, rfl, rfl, passes⟩ := ih read
      refine ⟨value :: items, ?_, rfl, ?_⟩
      · rw [List.reverse_cons, List.append_assoc, List.singleton_append]
      · exact (exact cursor between value first).trans passes

theorem sequence {chunks : α → Message} {reader : Reader α} (exact : Exact chunks reader) :
    Exact (sequenceChunks chunks) reader.sequence := by
  intro cursor later value read
  obtain ⟨count, between, counted, rest⟩ := Reader.bind_eq_ok read
  obtain ⟨_, rfl, length, passes⟩ := exact.manyOnto rest
  have number : UInt64.ofNat value.length = count := by rw [length, UInt64.ofNat_toNat]
  unfold sequenceChunks
  rw [number]
  exact (word _ _ _ counted).trans passes

theorem both {γ : Type} {first : α → Message} {second : β → Message} {front : Reader α} {back : Reader β}
    (exactFirst : Exact first front) (exactSecond : Exact second back) (left : γ → α) (right : γ → β)
    (make : α → β → γ) (made : ∀ a b, left (make a b) = a ∧ right (make a b) = b) :
    Exact (fun value => first (left value) ++ second (right value))
      (do let a ← front; let b ← back; pure (make a b)) := by
  intro cursor later value read
  obtain ⟨a, between, taken, rest⟩ := Reader.bind_eq_ok read
  obtain ⟨b, behind, last, done⟩ := Reader.bind_eq_ok rest
  obtain ⟨rfl, rfl⟩ := Reader.pure_eq_ok done
  obtain ⟨asLeft, asRight⟩ := made a b
  dsimp only
  rw [asLeft, asRight]
  exact (exactFirst _ _ _ taken).trans (exactSecond _ _ _ last)

theorem pair : Exact pairChunks Reader.pair :=
  both text text Pair.field Pair.value Pair.mk fun _ _ => ⟨rfl, rfl⟩

theorem table : Exact tableChunks Reader.table :=
  both text text.sequence Table.name Table.columns Table.mk fun _ _ => ⟨rfl, rfl⟩

theorem schema : Exact schemaChunks Reader.schema :=
  both table.sequence text Schema.tables Schema.location Schema.mk fun _ _ => ⟨rfl, rfl⟩

theorem shape (shape : Shape) : Exact shape.chunks shape.reader := by
  induction shape with
  | word => exact word
  | text => exact text
  | pair => exact pair
  | table => exact table
  | schema => exact schema
  | sequence element ih => exact ih.sequence

theorem request {opcode : Opcode} {cursor later : Cursor} {request : Request}
    (read : Request.reader opcode cursor = (.ok request, later)) :
    request.opcode = opcode ∧ cursor.Passes later request.chunks := by
  have names {make : String → String → Reader Request}
      (read : (do let table ← Reader.text; let key ← Reader.text; make table key) cursor =
        (.ok request, later)) :
      ∃ table key between, cursor.Passes between [.text table, .text key] ∧
        make table key between = (.ok request, later) := by
    obtain ⟨table, between, first, rest⟩ := Reader.bind_eq_ok read
    obtain ⟨key, behind, second, last⟩ := Reader.bind_eq_ok rest
    exact ⟨table, key, behind, (text _ _ _ first).trans (text _ _ _ second), last⟩
  cases opcode with
  | read =>
    obtain ⟨table, key, between, front, rest⟩ := names read
    obtain ⟨fields, _, back, made⟩ := Reader.bind_eq_ok rest
    obtain ⟨rfl, rfl⟩ := Reader.pure_eq_ok made
    exact ⟨rfl, front.trans (text.sequence _ _ _ back)⟩
  | scan =>
    obtain ⟨table, start, between, front, rest⟩ := names read
    obtain ⟨count, _, number, rest⟩ := Reader.bind_eq_ok rest
    obtain ⟨fields, _, back, made⟩ := Reader.bind_eq_ok rest
    obtain ⟨rfl, rfl⟩ := Reader.pure_eq_ok made
    exact ⟨rfl, (front.trans (word _ _ _ number)).trans (text.sequence _ _ _ back)⟩
  | insert =>
    obtain ⟨table, key, between, front, rest⟩ := names read
    obtain ⟨values, _, back, made⟩ := Reader.bind_eq_ok rest
    obtain ⟨rfl, rfl⟩ := Reader.pure_eq_ok made
    exact ⟨rfl, front.trans (pair.sequence _ _ _ back)⟩
  | update =>
    obtain ⟨table, key, between, front, rest⟩ := names read
    obtain ⟨values, _, back, made⟩ := Reader.bind_eq_ok rest
    obtain ⟨rfl, rfl⟩ := Reader.pure_eq_ok made
    exact ⟨rfl, front.trans (pair.sequence _ _ _ back)⟩
  | delete =>
    obtain ⟨table, key, between, front, made⟩ := names read
    obtain ⟨rfl, rfl⟩ := Reader.pure_eq_ok made
    exact ⟨rfl, front⟩
  | close =>
    obtain ⟨rfl, rfl⟩ := Reader.pure_eq_ok read
    exact ⟨rfl, .refl _⟩

end Exact

/-! ## Whole payloads -/

def Fills (message : Message) (bytes : List UInt8) : Prop :=
  ∀ buffer : List UInt8, buffer.length = bytes.length →
    ∃ encoder, (Encoder.start buffer).put message = (none, encoder) ∧
      encoder.position = bytes.length ∧ encoder.buffer = bytes

theorem fills_iff {message : Message} {bytes : List UInt8} :
    Fills message bytes ↔ bytes = message.bytes := by
  constructor
  · intro fills
    obtain ⟨encoder, written, whole, content⟩ := fills bytes rfl
    obtain ⟨_, position, buffer⟩ := Encoder.put_start written
    rw [← position, whole, List.drop_length, List.append_nil, content] at buffer
    exact buffer
  · rintro rfl buffer length
    rw [Message.bytes_length] at length
    have whole : ((Encoder.start buffer).put message).1 = none :=
      (Encoder.put_succeeds_iff _ _).2 (Nat.le_of_eq length.symm)
    obtain ⟨_, position, content⟩ := Encoder.put_start (Prod.ext whole rfl)
    refine ⟨_, Prod.ext whole rfl, ?_, ?_⟩
    · rw [position, Message.bytes_length]
    · rw [content, ← length, List.drop_length, List.append_nil]

structure Canonical (chunks : α → Message) (reader : Reader α) (kind : α → Prop) : Prop where
  rewrites : ∀ bytes value later, reader (.start (.ofList bytes)) = (.ok value, later) →
    kind value ∧ later.position ≤ bytes.length ∧ Fills (chunks value) (bytes.take later.position)
  /-- A value is read from the bytes that begin with one, and from no others. -/
  accepts : ∀ bytes, bytes.length < UInt64.size →
    ((∃ value later, reader (.start (.ofList bytes)) = (.ok value, later)) ↔
      ∃ value front, kind value ∧ Fills (chunks value) front ∧ front <+: bytes)
  /-- Bytes that are read to their end are those of the value alone. -/
  unique : ∀ first second value firstEnd secondEnd,
    reader (.start (.ofList first)) = (.ok value, firstEnd) → firstEnd.position = first.length →
    reader (.start (.ofList second)) = (.ok value, secondEnd) → secondEnd.position = second.length →
      first = second

theorem Canonical.of_exact {chunks : α → Message} {reader : Reader α} {kind : α → Prop}
    (exact : ∀ cursor later value, reader cursor = (.ok value, later) →
      kind value ∧ cursor.Passes later (chunks value))
    (spelled : ∀ value, kind value → (chunks value).size < UInt64.size → Spells (chunks value) reader value) :
    Canonical chunks reader kind := by
  -- what was read is the message and what was left, seen from the start of the bytes
  have front {bytes : List UInt8} {value : α} {later : Cursor}
      (read : reader (.start (.ofList bytes)) = (.ok value, later)) :
      kind value ∧ bytes = (chunks value).bytes ++ later.rest.toList ∧
        later.position = (chunks value).bytes.length := by
    obtain ⟨own, passes⟩ := exact _ _ _ read
    have content := passes.bytes
    rw [Cursor.start, Payload.toList_ofList] at content
    refine ⟨own, content, ?_⟩
    rw [passes.position, Cursor.start, Nat.zero_add, Message.bytes_length]
  constructor
  · intro bytes value later read
    obtain ⟨own, content, position⟩ := front read
    refine ⟨own, ?_, fills_iff.2 ?_⟩
    · rw [content, position, List.length_append]
      exact Nat.le_add_right _ _
    · rw [content, position, List.take_left]
  · intro bytes countable
    constructor
    · rintro ⟨value, later, read⟩
      obtain ⟨own, content, _⟩ := front read
      exact ⟨value, (chunks value).bytes, own, fills_iff.2 rfl, later.rest.toList, content.symm⟩
    · rintro ⟨value, spelling, own, fills, rest, rfl⟩
      obtain rfl := fills_iff.1 fills
      rw [List.length_append, Message.bytes_length] at countable
      exact ⟨value, _, spelled value own (by omega) (.ofList rest) 0⟩
  · intro first second value firstEnd secondEnd readFirst wholeFirst readSecond wholeSecond
    have all {bytes : List UInt8} {later : Cursor}
        (read : reader (.start (.ofList bytes)) = (.ok value, later)) (whole : later.position = bytes.length) :
        bytes = (chunks value).bytes := by
      obtain ⟨_, content, position⟩ := front read
      rw [← List.take_length (l := bytes), ← whole, position]
      rw [content, List.take_left]
    rw [all readFirst wholeFirst, all readSecond wholeSecond]

/-- The format is canonical, for the values of every shape and for the requests of every opcode. -/
theorem wire_canonical :
    (∀ shape : Shape, Canonical shape.chunks shape.reader fun _ => True) ∧
      ∀ opcode, Canonical Request.chunks (Request.reader opcode) (·.opcode = opcode) := by
  constructor
  · intro shape
    apply Canonical.of_exact
    · intro cursor later value read
      exact ⟨trivial, Exact.shape shape cursor later value read⟩
    · intro value _ countable
      exact (Readable.shape shape).spelled value countable
  · intro opcode
    apply Canonical.of_exact
    · intro cursor later request read
      exact Exact.request read
    · rintro request rfl countable
      exact request.spelled countable

end SharedRecords.Wire
