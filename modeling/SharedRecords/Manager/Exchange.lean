import SharedRecords.Client.Basic
import SharedRecords.Client.Publication
import SharedRecords.Manager.Basic

/-!
Round trips between a client and the sessions of a manager: the client submits, the sessions serve
until nothing is pending, and the client takes its response.
-/

namespace SharedRecords.Manager

/-- Raises a flag over whatever the region holds, and serves what is pending then. -/
def raise (manager : Manager) (index : Nat) (flag : UInt8) : Manager :=
  (manager.setMemory (manager.memory.setFlag index flag)).settle

/-- One call on a bare channel. No answer means that the client would wait forever. -/
def exchange {α : Type} (manager : Manager) (channel : Channel.ClientEnd) (opcode : Wire.Opcode)
    (message : Wire.Message) (reader : Wire.Status → Wire.Reader α) :
    Option (Except Channel.Error α × Channel.ClientEnd × Manager) :=
  match channel.submit manager.memory opcode message with
  | (some error, memory) => some (.error error, channel, manager.setMemory memory)
  | (none, memory) =>
    let served := (manager.setMemory memory).settle
    (channel.finish served.memory opcode reader).map fun (result, later, memory) =>
      (result, later, served.setMemory memory)

def call (manager : Manager) (client : Client) (request : Wire.Request) :
    Option (Except Client.Error Wire.Reply × Client × Manager) :=
  (manager.exchange client.channel request.opcode request.chunks
      (Client.responseReader request.opcode)).map fun (result, channel, later) =>
    (Client.settle result, { client with channel }, later)

def connect (manager : Manager) (address : Channel.Address) (options : Client.Options) :
    Except Client.Error Client × Manager :=
  let (result, pool) := Client.connect manager.pool address options
  (result, manager.setPool pool)

def publish (manager : Manager) (schema : Schema) (capacity : Nat) :
    Except Client.Error Client.Publication × Manager :=
  let (result, pool) := Client.publish manager.pool schema capacity
  (result, manager.setPool pool)

end SharedRecords.Manager
