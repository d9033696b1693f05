import SharedRecords.Proofs.Region.Memory

/-!
What a party does to a region through a mapping of it, and what that does to its bytes. Whoever looks at the
same cell sees it, and nobody else does.
-/

namespace SharedRecords.Region

variable {memory : Memory} {window other : Window} {capacity : Nat}

/-- What is done to a region through a mapping of it. -/
inductive Touch where
  | store (flag : UInt8)
  | write (message : Wire.Message)

namespace Cell

theorem bytes_eq (cell : Cell) (positive : headerLength ≤ capacity) :
    cell.bytes capacity = cell.flag :: (cell.payload (capacity - headerLength)).toList := by
  unfold bytes
  refine List.take_of_length_le ?_
  rw [List.length_cons, Wire.Payload.length_toList, length_payload]
  simp only [headerLength] at positive ⊢
  omega

theorem bytes_blank (capacity : Nat) : blank.bytes capacity = List.replicate capacity 0 := by
  cases capacity with
  | zero => rfl
  | succ room =>
    rw [bytes_eq blank (Nat.succ_le_succ (Nat.zero_le room)), List.replicate_succ]
    simp [blank, payload, Wire.Payload.toList, Wire.emptyFlag, headerLength]

end Cell

namespace Window

theorem length_bytes (positive : headerLength ≤ window.capacity) (memory : Memory) :
    (window.bytes memory).length = window.capacity := by
  rw [bytes, Cell.bytes_eq _ positive, List.length_cons, Wire.Payload.length_toList, Cell.length_payload]
  exact Nat.sub_add_cancel positive

theorem bytes_congr {later : Memory} (same : later.cell window.index = memory.cell window.index) :
    window.bytes later = window.bytes memory := by
  rw [bytes, bytes, same]

end Window

namespace Touch

def on : Touch → List UInt8 → List UInt8
  | store flag, bytes => flag :: bytes.drop headerLength
  | write message, bytes => bytes.take headerLength ++ (Wire.encodeInto (bytes.drop headerLength) message).2

def through (touch : Touch) (window : Window) (memory : Memory) : Memory :=
  match touch with
  | store flag => memory.setFlag window.index flag
  | write message => (window.write memory message).2

@[simp] theorem next_through (touch : Touch) (window : Window) (memory : Memory) :
    (touch.through window memory).next = memory.next := by
  cases touch with
  | store flag => exact memory.next_setFlag window.index flag
  | write message => exact window.next_write memory message

theorem bytes_through (touch : Touch) (inside : window.index < memory.next)
    (positive : headerLength ≤ window.capacity) :
    window.bytes (touch.through window memory) = touch.on (window.bytes memory) := by
  simp only [Window.bytes, Cell.bytes_eq _ positive]
  cases touch with
  | store flag =>
    simp only [through, Memory.setFlag]
    rw [Memory.cell_change inside]
    rfl
  | write message =>
    simp only [through, Window.write]
    rw [Memory.cell_change inside, Window.room, Cell.toList_payload_write]
    rfl

theorem bytes_through_of_ne (touch : Touch) (memory : Memory) (apart : window.index ≠ other.index) :
    other.bytes (touch.through window memory) = other.bytes memory := by
  refine Window.bytes_congr ?_
  cases touch with
  | store flag => exact Memory.cell_change_of_ne apart _
  | write message => exact Memory.cell_change_of_ne apart _

end Touch

end SharedRecords.Region
