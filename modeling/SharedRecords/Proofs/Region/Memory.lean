import SharedRecords.Proofs.Wire.Fitting
import SharedRecords.Region.Memory

/-!
Reading shared memory behind a write. A flag is changed by setting it and by nothing else, writing a
payload leaves every flag and every other cell alone, and a message that fits stands at the start of
the payload it was written to.
-/

namespace SharedRecords.Region

namespace Memory

variable {memory : Memory} {index other : Nat}

@[simp] theorem next_setFlag (memory : Memory) (index : Nat) (flag : UInt8) :
    (memory.setFlag index flag).next = memory.next :=
  next_change memory index _

theorem flag_setFlag (inside : index < memory.next) (flag : UInt8) :
    (memory.setFlag index flag).flag index = flag := by
  rw [setFlag, Memory.flag, cell_change inside]

theorem flag_setFlag_of_ne (apart : index ≠ other) (memory : Memory) (flag : UInt8) :
    (memory.setFlag index flag).flag other = memory.flag other := by
  rw [setFlag, Memory.flag, cell_change_of_ne apart]
  rfl

theorem change_of_le (outside : memory.next ≤ index) (edit : Cell → Cell) :
    memory.change index edit = memory := by
  unfold change
  rw [List.modify_eq_self outside]

theorem flag_setFlag_empty (memory : Memory) (index : Nat) :
    (memory.setFlag index Wire.emptyFlag).flag index = Wire.emptyFlag := by
  rcases Nat.lt_or_ge index memory.next with inside | outside
  · exact flag_setFlag inside _
  · rw [setFlag, change_of_le outside, Memory.flag, Memory.cell, List.getD_eq_getElem?_getD,
      List.getElem?_eq_none outside]
    rfl

theorem change_congr {edit alike : Cell → Cell} (same : edit (memory.cell index) = alike (memory.cell index)) :
    memory.change index edit = memory.change index alike := by
  unfold change
  congr 1
  apply List.ext_getElem?
  intro place
  rw [List.getElem?_modify, List.getElem?_modify]
  by_cases here : index = place
  · subst here
    simp only [if_pos]
    unfold cell at same
    cases held : memory.cells[index]? with
    | none => rfl
    | some found =>
      rw [List.getD_eq_getElem?_getD, held] at same
      exact congrArg some same
  · simp only [if_neg here]

theorem change_change (memory : Memory) (index : Nat) (first second : Cell → Cell) :
    (memory.change index first).change index second = memory.change index (second ∘ first) := by
  unfold change
  rw [List.modify_modify_eq]

end Memory

namespace Window

variable {memory written : Memory} {window other : Window} {message : Wire.Message}

@[simp] theorem payload_setFlag (window : Window) (memory : Memory) (index : Nat) (flag : UInt8) :
    window.payload (memory.setFlag index flag) = window.payload memory := by
  unfold payload Memory.setFlag
  by_cases same : index = window.index
  · subst same
    by_cases inside : window.index < memory.next
    · rw [Memory.cell_change inside]
      rfl
    · rw [Memory.change_of_le (Nat.le_of_not_lt inside)]
  · rw [Memory.cell_change_of_ne same]

@[simp] theorem next_write (window : Window) (memory : Memory) (message : Wire.Message) :
    (window.write memory message).2.next = memory.next :=
  Memory.next_change memory window.index _

@[simp] theorem flag_write (window : Window) (memory : Memory) (message : Wire.Message) (index : Nat) :
    (window.write memory message).2.flag index = memory.flag index := by
  unfold write Memory.flag
  by_cases same : window.index = index
  · subst same
    by_cases inside : window.index < memory.next
    · simp only
      rw [Memory.cell_change inside]
      rfl
    · simp only
      rw [Memory.change_of_le (Nat.le_of_not_lt inside)]
  · simp only
    rw [Memory.cell_change_of_ne same]

theorem payload_write_of_ne (apart : window.index ≠ other.index) (memory : Memory)
    (message : Wire.Message) : other.payload (window.write memory message).2 = other.payload memory := by
  unfold write payload
  simp only
  rw [Memory.cell_change_of_ne apart]

theorem write_failure_eq_none_iff (window : Window) (memory : Memory) (message : Wire.Message) :
    (window.write memory message).1 = none ↔ message.size ≤ window.room :=
  Wire.Message.fit_failure_eq_none_iff window.room message

theorem write_failure_eq_overflow (window : Window) (memory : Memory) (message : Wire.Message)
    (error : Wire.Error) (failed : (window.write memory message).1 = some error) :
    ∃ needed remaining, error = .bufferOverflow needed remaining :=
  Wire.Message.overflow_of_fit failed

theorem payload_write (inside : window.index < memory.next) (fits : message.size ≤ window.room) :
    ∃ rest : Wire.Payload, window.payload (window.write memory message).2 = message.bytes ++ rest := by
  let behind := (memory.cell window.index).written.drop message.size
  refine ⟨⟨behind.take (window.room - message.size), window.room - (message.size + behind.length)⟩, ?_⟩
  have cell : (window.write memory message).2.cell window.index =
      { memory.cell window.index with written := message.bytes ++ behind } := by
    simp only [write, Cell.write, Wire.Message.fit_of_size_le fits]
    rw [Memory.cell_change inside]
  rw [payload, cell]
  change Wire.Payload.mk _ _ = Wire.Payload.mk _ _
  rw [List.take_append, List.take_of_length_le (by simpa using fits), List.length_append,
    Wire.Message.bytes_length]

theorem write_of_size_le (inside : window.index < memory.next) (fits : message.size ≤ window.room) :
    ∃ later, window.write memory message = (none, later) ∧ later.next = memory.next ∧
      (∀ index, later.flag index = memory.flag index) ∧
        ∃ rest : Wire.Payload, window.payload later = message.bytes ++ rest := by
  have whole := (window.write_failure_eq_none_iff memory message).2 fits
  refine ⟨(window.write memory message).2, ?_, ?_, ?_, ?_⟩
  · rw [← whole]
  · exact window.next_write memory message
  · exact window.flag_write memory message
  · exact payload_write inside fits

theorem write_of_lt_size (window : Window) (memory : Memory) (large : window.room < message.size) :
    ∃ needed remaining later, window.write memory message = (some (.bufferOverflow needed remaining), later) ∧
      later.next = memory.next ∧ ∀ index, later.flag index = memory.flag index := by
  have whole := window.write_failure_eq_none_iff memory message
  cases failure : (window.write memory message).1 with
  | none => exact absurd (whole.1 failure) (Nat.not_le.2 large)
  | some error =>
    obtain ⟨needed, remaining, rfl⟩ := window.write_failure_eq_overflow memory message error failure
    refine ⟨needed, remaining, (window.write memory message).2, ?_, ?_, ?_⟩
    · rw [← failure]
    · exact window.next_write memory message
    · exact window.flag_write memory message

end Window

end SharedRecords.Region
