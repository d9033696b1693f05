import SharedRecords.Client.Basic
import SharedRecords.Proofs.Wire.RoundTrip
import SharedRecords.Store.Outcome

/-!
Reading responses. What the store comes to is read back by the client that asked, as the result that
outcome means to it.
-/

namespace SharedRecords

namespace Client

def meaning : Store.Outcome → Except Error Wire.Reply
  | .ok reply => .ok reply
  | .error .notFound => .error .notFound
  | .error (.conflict _) => .error .conflict
  | .error error => .error (.failed error.message)

end Client

namespace Store

variable {store later : Store} {request : Wire.Request}

theorem reply_of_settle {result : Except Error Store} {reply : Wire.Reply}
    (settled : store.settle result = (.ok reply, later)) : reply = .empty := by
  cases result with
  | ok changed => exact (Except.ok.inj (congrArg Prod.fst settled)).symm
  | error error => exact nomatch congrArg Prod.fst settled

theorem reply_spelled {reply : Wire.Reply} (answered : store.answer request = (.ok reply, later))
    (countable : reply.chunks.size < UInt64.size) :
    Wire.Spells reply.chunks (Client.replyReader request.opcode) reply := by
  cases request with
  | read table key fields =>
    have found := congrArg Prod.fst answered
    cases result : store.read table key fields with
    | error error =>
      rw [answer, result] at found
      contradiction
    | ok record =>
      rw [answer, result] at found
      obtain rfl := Except.ok.inj found
      exact (Wire.Readable.record.spelled record countable).map Wire.Reply.record
  | scan table start count fields =>
    have found := congrArg Prod.fst answered
    cases result : store.scan table start count.toNat fields with
    | error error =>
      rw [answer, result] at found
      contradiction
    | ok rows =>
      rw [answer, result] at found
      obtain rfl := Except.ok.inj found
      exact (Wire.Readable.rows.spelled rows countable).map Wire.Reply.rows
  | insert table key values =>
    rw [reply_of_settle answered]
    exact Wire.Spells.pure _
  | update table key values =>
    rw [reply_of_settle answered]
    exact Wire.Spells.pure _
  | delete table key =>
    rw [reply_of_settle answered]
    exact Wire.Spells.pure _
  | close =>
    obtain rfl := Except.ok.inj (congrArg Prod.fst answered)
    exact Wire.Spells.pure _

end Store

namespace Client

theorem responseReader_failed {reason : String} (countable : Wire.Message.size [.text reason] < UInt64.size)
    (opcode : Wire.Opcode) (rest : Wire.Payload) :
    (responseReader opcode .failed).run (Wire.Message.bytes [.text reason] ++ rest) =
      .ok (.error (.failed reason)) := by
  have text := Wire.Readable.text.spelled reason countable
  exact (text.map fun reason => Except.error (Error.failed reason)).run rest

theorem responseReader_error {error : Store.Error}
    (countable : (Store.Outcome.chunks (.error error)).size < UInt64.size) (opcode : Wire.Opcode)
    (rest : Wire.Payload) :
    (responseReader opcode (Store.Outcome.status (.error error))).run
      ((Store.Outcome.chunks (.error error)).bytes ++ rest) = .ok (meaning (.error error)) := by
  cases error with
  | notFound => rfl
  | conflict reason => rfl
  | unknownTable | unknownColumn | tableExists | failed => exact responseReader_failed countable opcode rest

theorem responseReader_outcome {store later : Store} {request : Wire.Request} {outcome : Store.Outcome}
    (answered : store.answer request = (outcome, later))
    (countable : outcome.chunks.size < UInt64.size) (rest : Wire.Payload) :
    (responseReader request.opcode outcome.status).run (outcome.chunks.bytes ++ rest) =
      .ok (meaning outcome) := by
  cases outcome with
  | ok reply =>
    have spelled := Store.reply_spelled answered countable
    exact (spelled.map Except.ok).run rest
  | error error => exact responseReader_error countable request.opcode rest

end Client

end SharedRecords
