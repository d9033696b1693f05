import SharedRecords.Store.Basic
import SharedRecords.Wire.Code

/-!
How an outcome is published: the status that goes into the flag and the message that goes with it.
-/

namespace SharedRecords.Store.Outcome

def status : Outcome → Wire.Status
  | .ok _ => .ok
  | .error .notFound => .notFound
  | .error (.conflict _) => .conflict
  | .error _ => .failed

/-- A missing record carries an empty sequence, so that a reader of rows sees none; a conflict
carries nothing, and any other failure its text. -/
def chunks : Outcome → Wire.Message
  | .ok reply => reply.chunks
  | .error .notFound => [.word 0]
  | .error (.conflict _) => []
  | .error error => [.text error.message]

theorem status_ne_aborted (outcome : Outcome) : outcome.status ≠ .aborted := by
  cases outcome with
  | ok reply => nofun
  | error error => cases error <;> nofun

end SharedRecords.Store.Outcome
