import SharedRecords.Region.Memory
import SharedRecords.Wire.Reader

/-!
Control regions carry one message. The poster raises a flag over it, and the receiver answers by
putting a status in the place of that flag.
-/

namespace SharedRecords.Channel

open Region (Mapping Memory)

structure Control where
  mapping : Mapping
  deriving DecidableEq, Repr, Inhabited

namespace Control

def flag (control : Control) (memory : Memory) : UInt8 := memory.flag control.mapping.index

/-- The status that the message was answered with. -/
def status? (control : Control) (memory : Memory) : Option Wire.Status :=
  Wire.Status.ofByte? (control.flag memory)

def post (control : Control) (memory : Memory) (flag : UInt8) (message : Wire.Message) :
    Option Wire.Error × Memory :=
  match control.mapping.write memory message with
  | (some error, written) => (some error, written)
  | (none, written) => (none, written.setFlag control.mapping.index flag)

/-- The posted message; nothing is posted under the empty flag. -/
def read? {α : Type} (control : Control) (memory : Memory) (reader : Wire.Reader α) :
    Option (Except Wire.Error α) :=
  if control.flag memory = Wire.emptyFlag then none
  else some (reader.run (control.mapping.payload memory))

def acknowledge (control : Control) (memory : Memory) (status : Wire.Status) : Memory :=
  memory.setFlag control.mapping.index status.byte

end Control

end SharedRecords.Channel
