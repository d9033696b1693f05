import SharedRecords.Channel.Poller
import SharedRecords.Text.Quoted

/-!
What a manager gives each of its sessions.
-/

namespace SharedRecords.Session

/-- Bytes of a region unless settings say otherwise: one mebibyte. -/
def defaultCapacity : Nat := 0x100000

structure Options where
  /-- Bytes of each region, the flag included. -/
  capacity : Nat
  wait : Channel.Strategy
  spinLimit : UInt32
  /-- Sessions run under this name and their number. -/
  namePrefix : String
  deriving DecidableEq, Repr, Inhabited

namespace Options

def poller (options : Options) : Channel.Poller := ⟨options.wait, options.spinLimit, none⟩

def description (options : Options) : String :=
  "ServerConfig \x7b capacity: " ++ toString options.capacity ++ ", wait: " ++ options.wait.description ++
    ", spin_limit: " ++ toString options.spinLimit.toNat ++ ", thread_name_prefix: " ++
      Text.quoted options.namePrefix ++ " \x7d"

end Options

end SharedRecords.Session
