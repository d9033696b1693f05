import SharedRecords.Proofs.Session.Publishing
import SharedRecords.Proofs.Wire.RoundTrip

/-!
Replies that do not fit. The text that stands in for one is cut where a character ends. The end is looked for
from the last byte that has room, downwards, and it is always found: the first byte of a text starts a character.
-/

namespace SharedRecords

namespace Session

open Channel (ServerEnd)
open Region (Memory)

section Cutting

theorem cut_append (limit : Nat) (characters : List Char) : ∃ rest, characters = cut limit characters ++ rest := by
  induction characters generalizing limit with
  | nil => exact ⟨[], rfl⟩
  | cons first rest ih =>
    unfold cut
    split
    · obtain ⟨later, same⟩ := ih (limit - first.utf8Size)
      exact ⟨later, by rw [List.cons_append, ← same]⟩
    · exact ⟨first :: rest, rfl⟩

theorem take_size_le_cut {limit count : Nat} {characters : List Char}
    (room : Number.total ((characters.take count).map Char.utf8Size) ≤ limit) :
    Number.total ((characters.take count).map Char.utf8Size) ≤
      Number.total ((cut limit characters).map Char.utf8Size) := by
  induction characters generalizing limit count with
  | nil => simp
  | cons first rest ih =>
    cases count with
    | zero => simp
    | succ count =>
      simp only [List.take_succ_cons, List.map_cons, Number.total_cons] at room ⊢
      have here : first.utf8Size ≤ limit := by omega
      have later := @ih (limit - first.utf8Size) count (by omega)
      simp only [cut, if_pos here, List.map_cons, Number.total_cons]
      omega

def Plain (characters : List Char) : Prop := ∀ character ∈ characters, character.utf8Size = 1

theorem Plain.append {front back : String} (first : Plain front.toList) (second : Plain back.toList) :
    Plain (front ++ back).toList := by
  intro character inside
  rw [String.toList_append] at inside
  rcases List.mem_append.mp inside with before | behind
  · exact first character before
  · exact second character behind

theorem Plain.total {characters : List Char} (plain : Plain characters) :
    Number.total (characters.map Char.utf8Size) = characters.length := by
  induction characters with
  | nil => rfl
  | cons first rest ih =>
    obtain ⟨single, others⟩ := List.forall_mem_cons.mp plain
    rw [List.map_cons, Number.total_cons, single, ih others, List.length_cons, Nat.add_comm]

theorem Plain.cut_eq_take {characters : List Char} (plain : Plain characters) (limit : Nat) :
    cut limit characters = characters.take limit := by
  induction characters generalizing limit with
  | nil => simp [cut]
  | cons first rest ih =>
    obtain ⟨single, others⟩ := List.forall_mem_cons.mp plain
    cases limit with
    | zero => simp [cut, single]
    | succ limit => simp [cut, single, ih others]

theorem Plain.cut_size {characters : List Char} (plain : Plain characters) (limit : Nat) :
    Number.total ((cut limit characters).map Char.utf8Size) =
      min (Number.total (characters.map Char.utf8Size)) limit := by
  have kept : Plain (characters.take limit) := fun character inside => plain character (List.mem_of_mem_take inside)
  rw [plain.cut_eq_take, kept.total, plain.total, List.length_take, Nat.min_comm]

end Cutting

section Retreating

/-- The loop that goes back to where a character starts or the text ends. Nothing is answered if it would have to
go on below the first byte. -/
def retreat? (text : String) : Nat → Option Nat
  | 0 => if String.Pos.Raw.isValid text ⟨0⟩ then some 0 else none
  | position + 1 =>
    if String.Pos.Raw.isValid text ⟨position + 1⟩ then some (position + 1) else retreat? text position

theorem retreat?_of_last {text : String} {start stop : Nat} (valid : String.Pos.Raw.IsValid text ⟨stop⟩)
    (below : stop ≤ start)
    (last : ∀ position, String.Pos.Raw.IsValid text ⟨position⟩ → position ≤ start → position ≤ stop) :
    retreat? text start = some stop := by
  induction start with
  | zero =>
    obtain rfl := Nat.le_zero.mp below
    simp [retreat?]
  | succ start ih =>
    by_cases here : String.Pos.Raw.IsValid text ⟨start + 1⟩
    · have same : stop = start + 1 := Nat.le_antisymm below (last _ here (Nat.le_refl _))
      rw [same, retreat?, if_pos (String.Pos.Raw.isValid_eq_true_iff.mpr here)]
    · have other : stop ≠ start + 1 := fun same => here (same ▸ valid)
      have lower : stop ≤ start := by omega
      rw [retreat?, if_neg (mt String.Pos.Raw.isValid_eq_true_iff.mp here)]
      exact ih lower fun position valid low => last position valid (Nat.le_succ_of_le low)

theorem retreat?_eq_cut (text : String) (limit : Nat) :
    retreat? text (min text.utf8ByteSize limit) = some (String.ofList (cut limit text.toList)).utf8ByteSize := by
  obtain ⟨rest, split⟩ := cut_append limit text.toList
  have whole : text = String.ofList (cut limit text.toList) ++ String.ofList rest := by
    rw [← String.ofList_append, ← split, String.ofList_toList]
  have size : (String.ofList (cut limit text.toList)).utf8ByteSize ≤ limit := by
    rw [utf8ByteSize_ofList]
    exact cut_size limit text.toList
  have inside : (String.ofList (cut limit text.toList)).utf8ByteSize ≤ text.utf8ByteSize := by
    have sum := congrArg String.utf8ByteSize whole
    rw [String.utf8ByteSize_append] at sum
    omega
  apply retreat?_of_last
  · exact String.Pos.Raw.isValid_iff_exists_append.mpr ⟨_, _, whole, rfl⟩
  · exact Nat.le_min.mpr ⟨inside, size⟩
  · intro position valid low
    obtain ⟨count, here⟩ := String.Pos.Raw.isValid_iff_exists_take_toList.mp valid
    have bytes : position = Number.total ((text.toList.take count).map Char.utf8Size) := by
      rw [← utf8ByteSize_ofList]
      exact here
    rw [utf8ByteSize_ofList, bytes]
    apply take_size_le_cut
    omega

end Retreating

section Wording

theorem plain_repr (number : Nat) : Plain (toString number).toList := by
  intro character inside
  have digits : character ∈ Nat.toDigits 10 number := by simpa [toString, Nat.repr] using inside
  have digit := Nat.isDigit_of_mem_toDigits (by decide) (by decide) digits
  rw [Char.isDigit_iff_toNat] at digit
  rw [Char.utf8Size_eq_one_iff, UInt32.le_iff_toNat_le]
  exact Nat.le_trans digit.2 (by decide)

theorem plain_name (status : Wire.Status) : Plain status.name.toList := by
  cases status <;> simp [Plain, Wire.Status.name] <;> decide

theorem plain_overflowText (status : Wire.Status) (needed remaining : Nat) :
    Plain (overflowText status (.bufferOverflow needed remaining)).toList := by
  have reply : Plain " reply does not fit the response region: ".toList := by simp [Plain]; decide
  have overflow : Plain "buffer overflow: need ".toList := by simp [Plain]; decide
  have bytes : Plain " bytes, ".toList := by simp [Plain]; decide
  have left : Plain " remaining".toList := by simp [Plain]; decide
  have opening := (plain_name status).append reply
  have counts := ((overflow.append (plain_repr needed)).append bytes).append (plain_repr remaining)
  exact opening.append (counts.append left)

end Wording

/-- A note that stands in for a reply without room, and how its end was found. -/
structure Excuse (status : Wire.Status) (error : Wire.Error) (capacity : Nat) (note : String) : Prop where
  opening : ∃ rest, overflowText status error = note ++ rest
  length : note.utf8ByteSize = min (overflowText status error).utf8ByteSize (capacity - Wire.wordLength)
  settled : retreat? (overflowText status error)
    (min (overflowText status error).utf8ByteSize (capacity - Wire.wordLength)) = some note.utf8ByteSize

theorem overflowNote_excuse (status : Wire.Status) (needed remaining capacity : Nat) :
    Excuse status (.bufferOverflow needed remaining) capacity
      (overflowNote status (.bufferOverflow needed remaining) capacity) where
  opening := by
    obtain ⟨rest, split⟩ := cut_append (capacity - Wire.wordLength)
      (overflowText status (.bufferOverflow needed remaining)).toList
    refine ⟨String.ofList rest, ?_⟩
    rw [overflowNote, ← String.ofList_append, ← split, String.ofList_toList]
  length := by
    have plain := plain_overflowText status needed remaining
    rw [overflowNote, utf8ByteSize_ofList, plain.cut_size, ← utf8ByteSize_ofList, String.ofList_toList]
  settled := retreat?_eq_cut _ _

/-- A reply that has room is published under its status. One that has not is published as a failure whose text is
the beginning of what there is to say, as much of it as has room behind its length, whatever the region held before.
Where not even the length has room, nothing is published and no flag changes. -/
theorem publish_downgrades {server : ServerEnd} {memory : Memory} (spans : server.Spans memory)
    (addressable : server.replyCapacity < UInt64.size) (status : Wire.Status) (message : Wire.Message) :
    (message.size ≤ server.replyCapacity → ∃ later,
      publish server memory status message = (.ok status, later) ∧ server.Published memory later status message) ∧
    (server.replyCapacity < message.size → Wire.wordLength ≤ server.replyCapacity → ∃ error note later,
      (message.fit server.replyCapacity).2 = some error ∧ Excuse status error server.replyCapacity note ∧
        publish server memory status message = (.ok .failed, later) ∧
          server.Published memory later .failed [.text note] ∧
            Wire.Reader.text.run (server.response.payload later) = .ok note) ∧
    (server.replyCapacity < message.size → server.replyCapacity < Wire.wordLength → ∃ later,
      publish server memory status message = (.error (.responseOverflow server.replyCapacity), later) ∧
        ∀ index, later.flag index = memory.flag index) := by
  refine ⟨fun fits => publish_fits spans fits status, fun large roomy => ?_, fun large tight => ?_⟩
  · obtain ⟨error, later, met, published, leaves⟩ := publish_excused spans roomy large status
    obtain ⟨needed, remaining, rfl⟩ := Wire.Message.overflow_of_fit met
    have short := overflowNote_size roomy status (.bufferOverflow needed remaining)
    have spelled := Wire.Readable.text.spelled _ (Nat.lt_of_le_of_lt short addressable)
    obtain ⟨rest, payload⟩ := leaves.payload
    refine ⟨_, _, later, met, overflowNote_excuse status needed remaining _, published, leaves, ?_⟩
    rw [payload]
    exact spelled.run rest
  · obtain ⟨later, refused, _, flags⟩ := publish_overflows tight large status
    exact ⟨later, refused, flags⟩

/-- A channel whose response region has room for a length and four bytes behind it. -/
def narrow : ServerEnd := ⟨⟨⟨0, 64⟩, default⟩, ⟨⟨1, 13⟩, default⟩, default⟩

theorem publish_downgrades_narrow :
    narrow.Spans ⟨[default, default]⟩ ∧ narrow.replyCapacity < UInt64.size ∧ ∃ error note later,
      (Wire.Message.fit 12 [.text "twenty bytes of text"]).2 = some error ∧ Excuse .ok error 12 note ∧
        publish narrow ⟨[default, default]⟩ .ok [.text "twenty bytes of text"] = (.ok .failed, later) ∧
          narrow.Published ⟨[default, default]⟩ later .failed [.text note] ∧
            Wire.Reader.text.run (narrow.response.payload later) = .ok note :=
  have spans : narrow.Spans ⟨[default, default]⟩ := ⟨by decide, by decide, by decide⟩
  have downgrades := publish_downgrades spans (by decide) .ok [.text "twenty bytes of text"]
  ⟨spans, by decide, downgrades.2.1 (by decide) (by decide)⟩

end Session

end SharedRecords
