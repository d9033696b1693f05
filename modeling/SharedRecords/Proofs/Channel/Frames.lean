import SharedRecords.Proofs.Channel.Rendezvous
import SharedRecords.Proofs.Region.Memory

/-!
What each step of a rendezvous leaves alone. Either end writes one flag or one payload at a time, and
since the regions are apart the other end sees exactly that change.
-/

namespace SharedRecords.Channel

open Region (Mapping Memory)

namespace ClientEnd

variable {α : Type} (client : ClientEnd) (opcode : Wire.Opcode) (flag : UInt8) (payload : Wire.Payload)
  (reader : Wire.Status → Wire.Reader α)

theorem interpret_eq : ∃ state, (client.interpret opcode flag payload reader).2 = { client with state } := by
  unfold interpret
  cases Wire.Status.ofByte flag with
  | error error => exact ⟨.poisoned, rfl⟩
  | ok status =>
    cases status with
    | aborted => exact ⟨.closed, rfl⟩
    | ok | notFound | conflict | failed =>
      dsimp only
      split
      · exact ⟨.poisoned, rfl⟩
      · by_cases closing : opcode = .close
        · exact ⟨.closed, by rw [if_pos closing]; rfl⟩
        · exact ⟨client.state, by rw [if_neg closing]⟩

theorem interpret_request : (client.interpret opcode flag payload reader).2.request = client.request := by
  obtain ⟨state, same⟩ := client.interpret_eq opcode flag payload reader
  rw [same]

theorem interpret_response : (client.interpret opcode flag payload reader).2.response = client.response := by
  obtain ⟨state, same⟩ := client.interpret_eq opcode flag payload reader
  rw [same]

end ClientEnd

namespace Signal

def Carries (signal : Signal) (message : Wire.Message) : Prop :=
  ∃ rest : Wire.Payload, signal.payload = message.bytes ++ rest

theorem carries_nil (signal : Signal) : signal.Carries [] := ⟨signal.payload, rfl⟩

end Signal

namespace Rendezvous

def asked (state : Rendezvous) : Signal :=
  ⟨state.memory.flag state.server.request.index, state.server.request.payload state.memory⟩

def told (state : Rendezvous) : Signal :=
  ⟨state.memory.flag state.server.response.index, state.server.response.payload state.memory⟩

/-- Both ends see the same two regions. -/
structure Joined (state : Rendezvous) : Prop where
  request : state.client.request = state.server.request
  response : state.client.response = state.server.response
  apart : state.server.request.index ≠ state.server.response.index
  request_inside : state.server.request.index < state.memory.next
  response_inside : state.server.response.index < state.memory.next

variable {state later : Rendezvous}

theorem asked_flag_write (state : Rendezvous) (opcode : Wire.Opcode) (message : Wire.Message) :
    (state.write opcode message).asked.flag = state.asked.flag :=
  Region.Window.flag_write _ _ _ _

theorem told_flag_reply (state : Rendezvous) (answer : Answer) (excused : Bool) :
    (state.reply answer excused).told.flag = state.told.flag :=
  Region.Window.flag_write _ _ _ _

namespace Joined

theorem start {memory : Memory} (pair : RegionPair memory) (clientPoller serverPoller : Poller) :
    (Rendezvous.start pair clientPoller serverPoller).Joined where
  request := rfl
  response := rfl
  apart := pair.apart
  request_inside := by
    show pair.request.index < ((memory.setFlag _ _).setFlag _ _).next
    rw [Memory.next_setFlag, Memory.next_setFlag]
    exact pair.request_inside
  response_inside := by
    show pair.response.index < ((memory.setFlag _ _).setFlag _ _).next
    rw [Memory.next_setFlag, Memory.next_setFlag]
    exact pair.response_inside

theorem next_step (step : Step state later) : later.memory.next = state.memory.next := by
  cases step with
  | write opcode message idle willing => exact Region.Window.next_write _ _ _
  | raise written => exact Memory.next_setFlag _ _ _
  | release lowering => exact Memory.next_setFlag _ _ _
  | reply answering => exact Region.Window.next_write _ _ _
  | lower lowering => exact Memory.next_setFlag _ _ _
  | publish raising => exact Memory.next_setFlag _ _ _
  | look waiting visible => rfl
  | timeOut waiting => rfl
  | read taking reader => rfl
  | notice polling pending => rfl
  | serve taken answers => rfl

theorem mappings_step (step : Step state later) : later.server = state.server ∧
    later.client.request = state.client.request ∧ later.client.response = state.client.response := by
  cases step with
  | read taking reader =>
    refine ⟨rfl, ?_, ?_⟩
    · exact ClientEnd.interpret_request _ _ _ _ reader
    · exact ClientEnd.interpret_response _ _ _ _ reader
  | _ => exact ⟨rfl, rfl, rfl⟩

theorem step (joined : state.Joined) (step : Step state later) : later.Joined := by
  obtain ⟨server, request, response⟩ := mappings_step step
  have next := next_step step
  constructor
  · rw [request, server]
    exact joined.request
  · rw [response, server]
    exact joined.response
  · rw [server]
    exact joined.apart
  · rw [server, next]
    exact joined.request_inside
  · rw [server, next]
    exact joined.response_inside

variable (joined : state.Joined)
include joined

theorem carries_write {opcode : Wire.Opcode} {message : Wire.Message}
    (whole : (state.client.request.write state.memory message).1 = none) :
    (state.write opcode message).asked.Carries message := by
  have fits := (Region.Window.write_failure_eq_none_iff _ _ _).1 whole
  unfold asked write
  rw [joined.request] at fits ⊢
  exact Region.Window.payload_write joined.request_inside fits

theorem told_write (opcode : Wire.Opcode) (message : Wire.Message) :
    (state.write opcode message).told = state.told := by
  have apart : state.client.request.index ≠ state.server.response.index := by
    rw [joined.request]
    exact joined.apart
  unfold told write
  rw [Region.Window.flag_write, Region.Window.payload_write_of_ne apart]

theorem asked_raise (opcode : Wire.Opcode) (message : Wire.Message) :
    (state.raise opcode message).asked = ⟨opcode.byte, state.asked.payload⟩ := by
  unfold asked raise
  rw [joined.request, Memory.flag_setFlag joined.request_inside, Region.Window.payload_setFlag]

theorem told_raise (opcode : Wire.Opcode) (message : Wire.Message) :
    (state.raise opcode message).told = state.told := by
  unfold told raise
  rw [joined.request, Memory.flag_setFlag_of_ne joined.apart, Region.Window.payload_setFlag]

theorem asked_release : state.release.asked = state.asked := by
  unfold asked release
  rw [joined.response, Memory.flag_setFlag_of_ne joined.apart.symm, Region.Window.payload_setFlag]

theorem told_release : state.release.told = ⟨Wire.emptyFlag, state.told.payload⟩ := by
  unfold told release
  rw [joined.response, Memory.flag_setFlag joined.response_inside, Region.Window.payload_setFlag]

theorem asked_reply (answer : Answer) (excused : Bool) :
    (state.reply answer excused).asked = state.asked := by
  unfold asked reply
  rw [Region.Window.flag_write, Region.Window.payload_write_of_ne joined.apart.symm]

theorem carries_reply {answer : Answer} {excused : Bool}
    (whole : (state.server.response.write state.memory answer.message).1 = none) :
    (state.reply answer excused).told.Carries answer.message := by
  have fits := (Region.Window.write_failure_eq_none_iff _ _ _).1 whole
  exact Region.Window.payload_write joined.response_inside fits

theorem asked_lower (answer : Answer) :
    (state.lower answer).asked = ⟨Wire.emptyFlag, state.asked.payload⟩ := by
  unfold asked lower
  rw [Memory.flag_setFlag joined.request_inside, Region.Window.payload_setFlag]

theorem told_lower (answer : Answer) : (state.lower answer).told = state.told := by
  unfold told lower
  rw [Memory.flag_setFlag_of_ne joined.apart, Region.Window.payload_setFlag]

theorem asked_publish (answer : Answer) : (state.publish answer).asked = state.asked := by
  unfold asked publish
  rw [Memory.flag_setFlag_of_ne joined.apart.symm, Region.Window.payload_setFlag]

theorem told_publish (answer : Answer) :
    (state.publish answer).told = ⟨answer.status.byte, state.told.payload⟩ := by
  unfold told publish
  rw [Memory.flag_setFlag joined.response_inside, Region.Window.payload_setFlag]

end Joined

end Rendezvous

end SharedRecords.Channel
