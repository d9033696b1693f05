import SharedRecords.Channel.Poller
import SharedRecords.Region.Memory
import SharedRecords.Wire.Reader

/-!
The session's end of a channel. A request is pending while its flag is raised; a response is
written, then the request flag is lowered, and only then the status goes into the response flag.
-/

namespace SharedRecords.Channel

open Region (Mapping Memory)

structure ServerEnd where
  request : Mapping
  response : Mapping
  poller : Poller
  deriving DecidableEq, Repr, Inhabited

namespace ServerEnd

/-- Takes both mappings over and lowers both flags. -/
def attach (request response : Mapping) (poller : Poller) (memory : Memory) : ServerEnd × Memory :=
  (⟨request, response, poller⟩,
    (memory.setFlag request.index Wire.emptyFlag).setFlag response.index Wire.emptyFlag)

def pending? (server : ServerEnd) (memory : Memory) : Option UInt8 :=
  let flag := memory.flag server.request.index
  if flag = Wire.emptyFlag then none else some flag

def wait (server : ServerEnd) (memory : Memory) (pace : Duration := Poller.usualPace) : Wait :=
  server.poller.settle pace (memory.flag server.request.index)

def decode {α : Type} (server : ServerEnd) (memory : Memory) (reader : Wire.Reader α) :
    Except Wire.Error α :=
  reader.run (server.request.payload memory)

def replyCapacity (server : ServerEnd) : Nat := server.response.room

def publish (server : ServerEnd) (memory : Memory) (status : Wire.Status) : Memory :=
  (memory.setFlag server.request.index Wire.emptyFlag).setFlag server.response.index status.byte

/-- A reply that does not fit publishes nothing, so the request stays pending. -/
def respond (server : ServerEnd) (memory : Memory) (status : Wire.Status) (message : Wire.Message) :
    Option Wire.Error × Memory :=
  match server.response.write memory message with
  | (some error, written) => (some error, written)
  | (none, written) => (none, server.publish written status)

def abort (server : ServerEnd) (memory : Memory) : Memory := server.publish memory .aborted

def respondOrAbort (server : ServerEnd) (memory : Memory) (status : Wire.Status) (message : Wire.Message) :
    Option Wire.Error × Memory :=
  match server.respond memory status message with
  | (some error, written) => (some error, server.abort written)
  | (none, published) => (none, published)

end ServerEnd

end SharedRecords.Channel
