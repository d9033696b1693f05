import SharedRecords.Proofs.Wire.Canonical
import SharedRecords.Proofs.Wire.Decoding
import SharedRecords.Proofs.Wire.Length

/-!
Room for the elements of a sequence. The count in front of a sequence can be any word, so room is only
reserved for as many elements as the bytes behind it could hold. An element takes at least the least length
of its shape, so the elements never come to need more, and few are begun however large the count is.
-/

namespace SharedRecords.Wire

variable {α : Type}

/-- Items, in room that was reserved for a number of them. -/
structure Shelf (α : Type) where
  items : List α
  room : Nat

def Shelf.push (more : Nat → Nat) (shelf : Shelf α) (item : α) : Shelf α where
  items := item :: shelf.items
  room := if shelf.items.length < shelf.room then shelf.room else shelf.room + more shelf.room

/-- How far the reading of a sequence came. -/
structure Filling (α : Type) where
  failure : Option Error
  shelf : Shelf α
  cursor : Cursor
  /-- The elements that were begun to be read. -/
  begun : Nat

def Filling.answer (filling : Filling α) : Except Error (List α) × Cursor :=
  match filling.failure with
  | none => (.ok filling.shelf.items.reverse, filling.cursor)
  | some error => (.error error, filling.cursor)

namespace Reader

variable {reader : Reader α} {least : Nat}

/-- Reads elements onto a shelf until the count is reached or one fails. -/
def fill (more : Nat → Nat) (reader : Reader α) : Nat → Shelf α → Cursor → Filling α
  | 0, shelf, cursor => ⟨none, shelf, cursor, 0⟩
  | count + 1, shelf, cursor =>
    match reader cursor with
    | (.ok item, later) =>
      let rest := fill more reader count (shelf.push more item) later
      { rest with begun := rest.begun + 1 }
    | (.error error, later) => ⟨some error, shelf, later, 1⟩

/-- A count, then that many elements. Room is reserved for all of them, or for those that the bytes that are
left could hold. -/
def provide (more : Nat → Nat) (least : Nat) (reader : Reader α) (cursor : Cursor) : Filling α :=
  match word cursor with
  | (.ok count, later) =>
    fill more reader count.toNat ⟨[], min count.toNat (later.remaining / max least 1)⟩ later
  | (.error error, later) => ⟨some error, ⟨[], 0⟩, later, 0⟩

/-! ## Reading without regard to the room -/

theorem fill_answer (more : Nat → Nat) (reader : Reader α) (count : Nat) (shelf : Shelf α) (cursor : Cursor) :
    (reader.fill more count shelf cursor).answer = reader.manyOnto count shelf.items cursor := by
  induction count generalizing shelf cursor with
  | zero => rfl
  | succ count ih =>
    unfold fill manyOnto
    rcases reader cursor with ⟨_ | item, later⟩
    · rfl
    · exact ih (shelf.push more item) later

theorem provide_answer (more : Nat → Nat) (least : Nat) (reader : Reader α) (cursor : Cursor) :
    (reader.provide more least cursor).answer = reader.sequence cursor := by
  unfold provide sequence many
  rw [bind_apply]
  rcases word cursor with ⟨_ | count, later⟩
  · rfl
  · exact fill_answer more reader count.toNat _ later

/-! ## The room -/

def Takes (least : Nat) (reader : Reader α) : Prop :=
  ∀ cursor later value, reader cursor = (.ok value, later) → cursor.position + least ≤ later.position

/-- What comes of a number of elements that are read onto a shelf, from bytes that hold no more than the most. -/
structure Shelved (shelf : Shelf α) (count most : Nat) (filling : Filling α) : Prop where
  room : filling.shelf.room = shelf.room
  items : filling.shelf.items.length ≤ shelf.room
  begun : filling.begun ≤ most + 1
  complete : filling.failure = none → filling.shelf.items.length = shelf.items.length + count

theorem fill_shelved (takes : reader.Takes least) (conserves : reader.Conserves) (positive : 0 < least)
    (more : Nat → Nat) (count : Nat) (shelf : Shelf α) (cursor : Cursor)
    (enough : shelf.items.length + min count (cursor.remaining / least) ≤ shelf.room) :
    Shelved shelf count (cursor.remaining / least) (reader.fill more count shelf cursor) := by
  induction count generalizing shelf cursor with
  | zero => exact ⟨rfl, Nat.le_of_add_right_le enough, Nat.zero_le _, fun _ => rfl⟩
  | succ count ih =>
    unfold fill
    rcases read : reader cursor with ⟨error | item, later⟩
    · exact ⟨rfl, Nat.le_of_add_right_le enough, Nat.le_add_left 1 _, nofun⟩
    · -- the bytes that the element took are those of one element fewer
      have fewer : later.remaining / least + 1 ≤ cursor.remaining / least := by
        have taken := takes cursor later item read
        have kept := conserves cursor
        rw [read] at kept
        simp only at kept
        calc later.remaining / least + 1
            = (later.remaining + least) / least := (Nat.add_div_right _ positive).symm
          _ ≤ cursor.remaining / least := Nat.div_le_div_right (by omega)
      have some_left : 0 < cursor.remaining / least := Nat.lt_of_lt_of_le (Nat.succ_pos _) fewer
      have free : shelf.items.length < shelf.room := by omega
      have same : (shelf.push more item).room = shelf.room := if_pos free
      have longer : (shelf.push more item).items.length = shelf.items.length + 1 := rfl
      have rest := ih (shelf.push more item) later (by omega)
      refine ⟨rest.room.trans same, same ▸ rest.items, ?_, ?_⟩
      · have begun := rest.begun
        simp only
        omega
      · intro whole
        have complete := rest.complete whole
        simp only
        omega

/-- What reading a sequence costs if the bytes behind its count hold no more elements than the most. -/
structure Sparing (most : Nat) (filling : Filling α) : Prop where
  begun : filling.begun ≤ most + 1
  room : filling.shelf.room ≤ most
  whole : filling.failure = none → filling.shelf.room = filling.shelf.items.length

theorem provide_sparing (takes : reader.Takes least) (conserves : reader.Conserves) (positive : 0 < least)
    (more : Nat → Nat) (cursor : Cursor) :
    Sparing ((cursor.remaining - wordLength) / least) (reader.provide more least cursor) := by
  unfold provide
  rcases counted : word cursor with ⟨error | count, later⟩
  · exact ⟨Nat.zero_le _, Nat.zero_le _, nofun⟩
  · have left : cursor.remaining - wordLength = later.remaining := by
      have passed := (Exact.word cursor later count counted).position
      have kept := Conserves.word cursor
      rw [counted] at kept
      simp only [Message.size, Chunk.size] at passed kept
      omega
    simp only [left, Nat.max_eq_left (Nat.succ_le_of_lt positive)]
    let reserved : Shelf α := ⟨[], min count.toNat (later.remaining / least)⟩
    have shelved : Shelved reserved count.toNat (later.remaining / least) _ :=
      fill_shelved takes conserves positive more count.toNat reserved later (Nat.le_of_eq (Nat.zero_add _))
    refine ⟨shelved.begun, ?_, ?_⟩
    · rw [shelved.room]
      exact Nat.min_le_right _ _
    · intro whole
      have complete := shelved.complete whole
      have inside := shelved.items
      have room := shelved.room
      simp only [reserved, List.length_nil, Nat.zero_add] at complete inside room
      omega

/-- What can be said of the reading of any bytes. -/
structure Accounted (reader : Reader α) : Prop where
  position_add_remaining : ∀ payload,
    (reader (.start payload)).2.position + (reader (.start payload)).2.remaining = payload.length
  error_cases : ∀ cursor error, (reader cursor).1 = .error error →
    (∃ needed remaining, error = .truncated needed remaining) ∨ error = .invalidUtf8

theorem Built.accounted (built : Built reader) : reader.Accounted where
  position_add_remaining payload := (built.conserves (.start payload)).trans (Nat.zero_add _)
  error_cases _ _ := built.error_cases

end Reader

/-! ## Values of every shape -/

theorem Shape.minLength_pos (shape : Shape) : 0 < shape.minLength := by
  cases shape <;> simp [minLength, wordLength]

theorem Shape.takes_minLength (shape : Shape) : shape.reader.Takes shape.minLength := by
  intro cursor later value read
  have passes := Exact.shape shape cursor later value read
  rw [passes.position, shape.size_chunks]
  exact Nat.add_le_add_left (shape.minLength_le_encodedLength value) _

/-- Hostile bytes cost no more than their number allows. Every value takes at least the least length of its
shape. Whatever count stands in front of a sequence, and however a full shelf would grow, at most one element
more is begun than the bytes behind the count can hold, and room is reserved for no more than they can hold,
and for just as many as are read. However readings follow on each other, also behind errors, the bytes read and
the bytes left make up the payload, and bytes that are missing or no text are the only errors. -/
theorem decoding_bounded :
    (∀ shape : Shape, shape.reader.Built ∧ shape.reader.Takes shape.minLength) ∧
    (∀ (element : Shape) (more : Nat → Nat) (cursor : Cursor),
      (element.reader.provide more element.minLength cursor).answer = (Shape.sequence element).reader cursor ∧
        Reader.Sparing ((cursor.remaining - wordLength) / element.minLength)
          (element.reader.provide more element.minLength cursor)) ∧
    ∀ {α : Type} (reader : Reader α), reader.Built → reader.Accounted := by
  have built (shape : Shape) : shape.reader.Built := (Reader.Plain.shape shape).built
  refine ⟨fun shape => ⟨built shape, shape.takes_minLength⟩, ?_, fun reader built => built.accounted⟩
  intro element more cursor
  constructor
  · exact Reader.provide_answer more element.minLength element.reader cursor
  · exact Reader.provide_sparing element.takes_minLength (built element).conserves element.minLength_pos more cursor

/-- A count with no elements behind it reserves nothing and begins one element. -/
example :
    let filling := Reader.text.provide (fun room => room + 4) wordLength
      (.start (.ofList (wordBytes 0xffffffff)))
    filling.failure = some (.truncated 8 0) ∧ filling.shelf.room = 0 ∧ filling.begun = 1 := by
  decide

end SharedRecords.Wire
