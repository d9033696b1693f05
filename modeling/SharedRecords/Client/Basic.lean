import SharedRecords.Channel.Address
import SharedRecords.Channel.ClientEnd
import SharedRecords.Client.Error
import SharedRecords.Client.Options
import SharedRecords.Region.Pool
import SharedRecords.Wire.Reply
import SharedRecords.Wire.Request

/-!
A client sends requests to one session and reads its replies by the status they come with.
-/

namespace SharedRecords

structure Client where
  id : SessionId
  channel : Channel.ClientEnd
  deriving DecidableEq, Repr, Inhabited

namespace Client

/-- Maps the regions at an address, the one for requests first. -/
def openChannel (pool : Region.Pool) (address : Channel.Address) (poller : Channel.Poller)
    (pace : Duration := Channel.Poller.usualPace) : Except Region.Error Channel.ClientEnd × Region.Pool :=
  match pool.map address.request with
  | (.error error, later) => (.error error, later)
  | (.ok request, mapped) =>
    match mapped.map address.response with
    | (.error error, later) => (.error error, later)
    | (.ok response, later) => (.ok (.connect request response poller pace), later)

def connect (pool : Region.Pool) (address : Channel.Address) (options : Options) :
    Except Error Client × Region.Pool :=
  match openChannel pool address options.poller options.pace with
  | (.error error, later) => (.error (.region error), later)
  | (.ok channel, later) => (.ok ⟨address.id, channel⟩, later)

def isOpen (client : Client) : Bool := client.channel.isOpen

/-- What a session answers to a request that succeeds. -/
def replyReader : Wire.Opcode → Wire.Reader Wire.Reply
  | .read => do
    let record ← Wire.Reader.record
    pure (.record record)
  | .scan => do
    let rows ← Wire.Reader.rows
    pure (.rows rows)
  | .insert | .update | .delete | .close => pure .empty

/-- The meaning of a response: a status other than success says more than its payload, a failure
apart, which carries its reason. -/
def responseReader (opcode : Wire.Opcode) : Wire.Status → Wire.Reader (Except Error Wire.Reply)
  | .ok => do
    let reply ← replyReader opcode
    pure (.ok reply)
  | .notFound => pure (.error .notFound)
  | .conflict => pure (.error .conflict)
  | .failed => do
    let reason ← Wire.Reader.text
    pure (.error (.failed reason))
  | .aborted => pure (.error (.channel .aborted))

def settle : Except Channel.Error (Except Error Wire.Reply) → Except Error Wire.Reply
  | .ok result => result
  | .error error => .error (.channel error)

end Client

end SharedRecords
