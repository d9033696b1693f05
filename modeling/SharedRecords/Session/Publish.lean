import SharedRecords.Channel.ServerEnd
import SharedRecords.Number.Total
import SharedRecords.Session.Violation
import SharedRecords.Store.Outcome

/-!
Publishing an outcome. A reply that does not fit is replaced by a failure that says so, and that
message is cut to what fits.
-/

namespace SharedRecords.Session

open Region (Memory)
open Channel (ServerEnd)

/-- The most characters from the start that take at most so many bytes. -/
def cut (limit : Nat) : List Char → List Char
  | [] => []
  | first :: rest =>
    if first.utf8Size ≤ limit then first :: cut (limit - first.utf8Size) rest else []

def overflowText (status : Wire.Status) (error : Wire.Error) : String :=
  status.name ++ " reply does not fit the response region: " ++ error.message

/-- The message for a reply that does not fit, in a payload of so many bytes. -/
def overflowNote (status : Wire.Status) (error : Wire.Error) (capacity : Nat) : String :=
  String.ofList (cut (capacity - Wire.wordLength) (overflowText status error).toList)

/-- Publishes a reply, or that it does not fit. The status is the one that was published. -/
def publish (server : ServerEnd) (memory : Memory) (status : Wire.Status) (message : Wire.Message) :
    Except Violation Wire.Status × Memory :=
  match server.respond memory status message with
  | (none, published) => (.ok status, published)
  | (some error, written) =>
    match server.respond written .failed [.text (overflowNote status error server.replyCapacity)] with
    | (none, published) => (.ok .failed, published)
    | (some _, last) => (.error (.responseOverflow server.replyCapacity), last)

theorem cut_size (limit : Nat) (characters : List Char) :
    Number.total ((cut limit characters).map Char.utf8Size) ≤ limit := by
  induction characters generalizing limit with
  | nil => simp [cut]
  | cons first rest ih =>
    unfold cut
    split
    · have later := ih (limit - first.utf8Size)
      simp only [List.map_cons, Number.total_cons]
      omega
    · simp

end SharedRecords.Session
