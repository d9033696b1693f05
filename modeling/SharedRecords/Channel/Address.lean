import SharedRecords.Region.Handle
import SharedRecords.Schema

/-!
Addresses: what a client needs to know of a session to reach it.
-/

namespace SharedRecords.Channel

structure Address where
  id : SessionId
  request : Region.Handle
  response : Region.Handle
  deriving DecidableEq, Repr, Inhabited

def Address.json (address : Address) : String :=
  "\x7b\"id\":" ++ toString address.id.number.toNat ++ ",\"request\":" ++ address.request.json ++
    ",\"response\":" ++ address.response.json ++ "\x7d"

end SharedRecords.Channel
