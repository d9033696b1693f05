import SharedRecords.Channel.Error
import SharedRecords.Channel.Poller
import SharedRecords.Region.Memory
import SharedRecords.Wire.Reader

/-!
The client's end of a channel. A call writes the request and raises its opcode as the flag; it
ends when the response flag is raised, or when the deadline has passed. At most one request is
outstanding: any failure behind the raised flag shuts the channel, since a late response could be
taken for that of the next call.
-/

namespace SharedRecords.Channel

open Region (Mapping Memory)

inductive ClientState where
  | ready
  | closed
  | poisoned
  deriving DecidableEq, Repr, Inhabited

structure ClientEnd where
  request : Mapping
  response : Mapping
  poller : Poller
  state : ClientState
  /-- A look takes at most so long while the client spins, which is up to the platform. -/
  pace : Duration
  deriving DecidableEq, Repr, Inhabited

namespace ClientEnd

def connect (request response : Mapping) (poller : Poller) (pace : Duration := Poller.usualPace) : ClientEnd :=
  ⟨request, response, poller, .ready, pace⟩

def isOpen (client : ClientEnd) : Bool := client.state == .ready

def requestCapacity (client : ClientEnd) : Nat := client.request.room

/-- The reason why a channel carries no further request. -/
def refusal? (client : ClientEnd) : Option Error :=
  match client.state with
  | .ready => none
  | .closed => some .closed
  | .poisoned => some .poisoned

/-- Writes a request and raises its flag, unless the channel is shut or the request does not fit. -/
def submit (client : ClientEnd) (memory : Memory) (opcode : Wire.Opcode) (message : Wire.Message) :
    Option Error × Memory :=
  match client.refusal? with
  | some error => (some error, memory)
  | none =>
    match client.request.write memory message with
    | (some error, written) => (some (.wire error), written)
    | (none, written) => (none, written.setFlag client.request.index opcode.byte)

def poison (client : ClientEnd) : ClientEnd := { client with state := .poisoned }

def close (client : ClientEnd) : ClientEnd := { client with state := .closed }

/-- Reads the payload that came with a raised response flag. -/
def interpret {α : Type} (client : ClientEnd) (opcode : Wire.Opcode) (flag : UInt8)
    (payload : Wire.Payload) (reader : Wire.Status → Wire.Reader α) : Except Error α × ClientEnd :=
  match Wire.Status.ofByte flag with
  | .error error => (.error (.wire error), client.poison)
  | .ok .aborted => (.error .aborted, client.close)
  | .ok status =>
    match (reader status).run payload with
    | .error error => (.error (.wire error), client.poison)
    | .ok value => (.ok value, if opcode = .close then client.close else client)

/-- The end of a submitted call: the response is taken and its flag lowered, or the channel is
given up. No answer means that the wait has no end. -/
def finish {α : Type} (client : ClientEnd) (memory : Memory) (opcode : Wire.Opcode)
    (reader : Wire.Status → Wire.Reader α) : Option (Except Error α × ClientEnd × Memory) :=
  match client.poller.settle client.pace (memory.flag client.response.index) with
  | .waiting => none
  | .elapsed waited => some (.error (.timeout waited), client.poison, memory)
  | .raised flag =>
    let (result, later) := client.interpret opcode flag (client.response.payload memory) reader
    some (result, later, memory.setFlag client.response.index Wire.emptyFlag)

end ClientEnd

end SharedRecords.Channel
