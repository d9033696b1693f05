import SharedRecords.Region.Handle
import SharedRecords.Wire.Code
import SharedRecords.Wire.Encoder
import SharedRecords.Wire.Payload

/-!
Shared memory: cells of one flag byte and a payload. Every mapping of a region shows the same
cell, so a write through one is seen through all, and a write to one cell leaves the others alone.
How much of a cell is seen depends on the mapping alone.
-/

namespace SharedRecords.Region

def headerLength : Nat := 1

def minimumCapacity : Nat := headerLength + 1

/-- The content of one region. -/
structure Cell where
  flag : UInt8
  /-- The payload as far as it was ever written; behind it are zeros. -/
  written : List UInt8
  deriving DecidableEq, Repr, Inhabited

namespace Cell

def blank : Cell := ⟨Wire.emptyFlag, []⟩

def ofBytes : List UInt8 → Cell
  | [] => blank
  | flag :: written => ⟨flag, written⟩

def payload (cell : Cell) (room : Nat) : Wire.Payload :=
  ⟨cell.written.take room, room - cell.written.length⟩

def bytes (cell : Cell) (count : Nat) : List UInt8 :=
  (cell.flag :: (cell.payload (count - headerLength)).toList).take count

/-- Writes a message over the start of the payload. What fits is written even if not all of it
does. -/
def write (cell : Cell) (room : Nat) (message : Wire.Message) : Option Wire.Error × Cell :=
  let (taken, failure) := message.fit room
  (failure, { cell with written := taken.bytes ++ cell.written.drop taken.size })

@[simp] theorem length_payload (cell : Cell) (room : Nat) : (cell.payload room).length = room := by
  simp only [payload, Wire.Payload.length, List.length_take]
  omega

theorem toList_payload_write (cell : Cell) (room : Nat) (message : Wire.Message) :
    ((cell.write room message).2.payload room).toList =
      (Wire.encodeInto (cell.payload room).toList message).2 := by
  have fits := Wire.Message.size_fit_le room message
  simp only [write, payload, Wire.Payload.toList, Wire.encodeInto, Wire.Encoder.put,
    Wire.Encoder.start, Wire.Encoder.write, Wire.Encoder.remaining, List.length_append,
    List.length_take, List.length_replicate, List.length_drop, Wire.Message.bytes_length,
    List.take_zero, List.nil_append, Nat.zero_add, Nat.sub_zero]
  have whole : min room cell.written.length + (room - cell.written.length) = room := by omega
  rw [whole]
  generalize (Wire.Message.fit room message).1 = taken at fits ⊢
  rw [List.take_append, List.drop_append, List.take_of_length_le (by simpa using fits), List.take_drop,
    List.drop_replicate]
  simp only [Wire.Message.bytes_length, List.length_take, List.append_assoc]
  congr 3
  · congr 1
    omega
  · omega

end Cell

structure Memory where
  cells : List Cell
  deriving DecidableEq, Repr, Inhabited

/-- What a party sees of a cell: its bytes up to a number of them. -/
structure Window where
  index : Nat
  capacity : Nat
  deriving DecidableEq, Repr, Inhabited

namespace Memory

def empty : Memory := ⟨[]⟩

def next (memory : Memory) : Nat := memory.cells.length

def add (memory : Memory) (cell : Cell) : Memory := ⟨memory.cells ++ [cell]⟩

def cell (memory : Memory) (index : Nat) : Cell := memory.cells.getD index default

def flag (memory : Memory) (index : Nat) : UInt8 := (memory.cell index).flag

def change (memory : Memory) (index : Nat) (edit : Cell → Cell) : Memory :=
  ⟨memory.cells.modify index edit⟩

def setFlag (memory : Memory) (index : Nat) (flag : UInt8) : Memory :=
  memory.change index fun cell => { cell with flag }

@[simp] theorem next_add (memory : Memory) (cell : Cell) : (memory.add cell).next = memory.next + 1 := by
  simp [next, add]

@[simp] theorem next_change (memory : Memory) (index : Nat) (edit : Cell → Cell) :
    (memory.change index edit).next = memory.next := by
  simp [next, change]

theorem cell_add_next (memory : Memory) (cell : Cell) :
    (memory.add cell).cell memory.next = cell := by
  simp [add, Memory.cell, next]

theorem cell_add_of_lt {memory : Memory} {index : Nat} (old : index < memory.next) (cell : Cell) :
    (memory.add cell).cell index = memory.cell index := by
  simp only [next] at old
  simp [add, Memory.cell, List.getElem?_append_left old]

theorem cell_change {memory : Memory} {index : Nat} (inside : index < memory.next) (edit : Cell → Cell) :
    (memory.change index edit).cell index = edit (memory.cell index) := by
  simp only [next] at inside
  simp [change, Memory.cell, inside]

theorem cell_change_of_ne {memory : Memory} {index other : Nat} (apart : index ≠ other)
    (edit : Cell → Cell) : (memory.change index edit).cell other = memory.cell other := by
  simp [change, Memory.cell, apart]

end Memory

namespace Window

def room (window : Window) : Nat := window.capacity - headerLength

def payload (window : Window) (memory : Memory) : Wire.Payload :=
  (memory.cell window.index).payload window.room

def bytes (window : Window) (memory : Memory) : List UInt8 :=
  (memory.cell window.index).bytes window.capacity

def write (window : Window) (memory : Memory) (message : Wire.Message) : Option Wire.Error × Memory :=
  let (failure, cell) := (memory.cell window.index).write window.room message
  (failure, memory.change window.index fun _ => cell)

end Window

/-- One party's view of a region: its handle and the window through which it is seen. -/
structure Mapping extends Window where
  handle : Handle
  deriving DecidableEq, Repr, Inhabited

namespace Mapping

def description (mapping : Mapping) : String :=
  "Region \x7b handle: " ++ mapping.handle.description ++ ", capacity: " ++
    toString mapping.capacity ++ ", .. \x7d"

end Mapping

end SharedRecords.Region
