import SharedRecords.Proofs.Channel.Invariant

/-!
A channel is faithful under every interleaving. No payload is written while the other end may still
read it, no raised request is lost or served twice, and every response is received by the call it was
published for.
-/

namespace SharedRecords.Channel.Rendezvous

variable {state later : Rendezvous}

def ClientWrites (state : Rendezvous) : Prop :=
  state.clientPhase = .idle ∧ state.client.refusal? = none

def SessionReads (state : Rendezvous) : Prop :=
  state.served.length < state.raised.length ∨
    (state.serverPhase = .polling ∧ state.server.pending? state.memory ≠ none) ∨
      ∃ flag, state.serverPhase = .taken flag

def SessionWrites (state : Rendezvous) : Prop :=
  ∃ answer excused, state.serverPhase = .answering answer excused

def ClientReads (state : Rendezvous) : Prop :=
  state.received.length < state.published.length ∨
    (∃ number opcode, state.clientPhase = .waiting number opcode ∧
      state.memory.flag state.client.response.index ≠ Wire.emptyFlag) ∨
        ∃ number opcode flag, state.clientPhase = .taking number opcode flag

/-- What both ends can rely on in a state, and in whatever step comes next. -/
structure Faithful (state : Rendezvous) : Prop where
  /-- At most one request is outstanding. -/
  single : state.raised.length ≤ state.received.length + 1
  whole : ∀ call ∈ state.raised, call.signal.Carries call.message
  /-- Requests are served in order and once at most, each under its flag and with its bytes. -/
  served_once : state.served <+: state.raised.map Call.signal
  /-- A raised flag goes only when all that was raised is read. -/
  kept : ∀ later, Step state later → state.asked.flag ≠ Wire.emptyFlag →
    later.asked.flag ≠ state.asked.flag → state.served.length = state.raised.length
  request_writer : ∀ later, Step state later → later.asked.payload ≠ state.asked.payload →
    state.ClientWrites
  request_exclusive : state.ClientWrites → ¬ state.SessionReads
  response_writer : ∀ later, Step state later → later.told.payload ≠ state.told.payload →
    state.SessionWrites
  response_exclusive : state.SessionWrites → ¬ state.ClientReads
  /-- An answer stands whole in its region when its flag is raised. -/
  complete : ∀ answer, state.serverPhase = .raising answer → state.told.Carries answer.message
  /-- A call receives what was published for the request it raised. -/
  own : ∀ (index : Nat) (delivery : Delivery), state.received[index]? = some delivery →
    delivery.number = index ∧ state.published[index]? = some delivery ∧
      ∃ call : Call, state.raised[index]? = some call ∧ state.served[index]? = some call.signal

namespace Joined

variable (joined : state.Joined)
include joined

theorem request_writer (step : Step state later) (changed : later.asked.payload ≠ state.asked.payload) :
    state.ClientWrites := by
  cases step with
  | write opcode message idle willing => exact ⟨idle, willing⟩
  | raise written => exact absurd (congrArg Signal.payload (joined.asked_raise _ _)) changed
  | release lowering => exact absurd (congrArg Signal.payload joined.asked_release) changed
  | reply answering => exact absurd (congrArg Signal.payload (joined.asked_reply _ _)) changed
  | lower lowering => exact absurd (congrArg Signal.payload (joined.asked_lower _)) changed
  | publish raising => exact absurd (congrArg Signal.payload (joined.asked_publish _)) changed
  | look | timeOut | read | notice | serve => exact absurd rfl changed

theorem response_writer (step : Step state later) (changed : later.told.payload ≠ state.told.payload) :
    state.SessionWrites := by
  cases step with
  | reply answering => exact ⟨_, _, answering⟩
  | write opcode message idle willing => exact absurd (congrArg Signal.payload (joined.told_write _ _)) changed
  | raise written => exact absurd (congrArg Signal.payload (joined.told_raise _ _)) changed
  | release lowering => exact absurd (congrArg Signal.payload joined.told_release) changed
  | lower lowering => exact absurd (congrArg Signal.payload (joined.told_lower _)) changed
  | publish raising => exact absurd (congrArg Signal.payload (joined.told_publish _)) changed
  | look | timeOut | read | notice | serve => exact absurd rfl changed

end Joined

namespace Invariant

variable (inv : state.Invariant)
include inv

theorem kept (step : Step state later) (visible : state.asked.flag ≠ Wire.emptyFlag)
    (changed : later.asked.flag ≠ state.asked.flag) : state.served.length = state.raised.length := by
  cases step with
  | raise written =>
    have holds := inv.client
    rw [written] at holds
    have settled := inv.settled holds.1
    exact absurd (inv.quiet settled.1) visible
  | lower lowering =>
    have holds := inv.server
    rw [lowering] at holds
    exact holds.1.1
  | write opcode message idle willing => exact absurd (asked_flag_write _ _ _) changed
  | release lowering => exact absurd (congrArg Signal.flag inv.joined.asked_release) changed
  | reply answering => exact absurd (congrArg Signal.flag (inv.joined.asked_reply _ _)) changed
  | publish raising => exact absurd (congrArg Signal.flag (inv.joined.asked_publish _)) changed
  | look | timeOut | read | notice | serve => exact absurd rfl changed

theorem request_exclusive (writes : state.ClientWrites) : ¬ state.SessionReads := by
  obtain ⟨idle, willing⟩ := writes
  have level := inv.client
  rw [idle] at level
  obtain ⟨published, served⟩ := inv.settled (level (ClientEnd.ready_of_willing willing))
  rintro (unread | ⟨polling, pending⟩ | ⟨flag, taken⟩)
  · omega
  · apply pending
    unfold ServerEnd.pending?
    exact if_pos (inv.quiet published)
  · have holds := inv.server
    rw [taken] at holds
    have unread := holds.2.1
    omega

theorem response_exclusive (writes : state.SessionWrites) : ¬ state.ClientReads := by
  obtain ⟨answer, excused, answering⟩ := writes
  have unanswered := inv.server
  rw [answering] at unanswered
  have awaited := inv.awaited unanswered
  rintro (unread | ⟨number, opcode, waiting, visible⟩ | ⟨number, opcode, flag, taking⟩)
  · omega
  · rw [inv.joined.response] at visible
    apply visible
    apply inv.lowered awaited
    rw [waiting]
    nofun
  · have holds := inv.client
    rw [taking] at holds
    obtain ⟨latest, _, fresh, _⟩ := holds
    omega

theorem complete {answer : Answer} (raising : state.serverPhase = .raising answer) :
    state.told.Carries answer.message := by
  have holds := inv.server
  rw [raising] at holds
  exact holds.2.2

theorem own {index : Nat} {delivery : Delivery} (found : state.received[index]? = some delivery) :
    delivery.number = index ∧ state.published[index]? = some delivery ∧
      ∃ call : Call, state.raised[index]? = some call ∧ state.served[index]? = some call.signal := by
  obtain ⟨inside, same⟩ := List.getElem?_eq_some_iff.1 found
  have received := inv.received_le
  have answered := inv.answered
  have served := inv.served_le
  have published : state.published[index]? = some delivery := by
    rw [List.prefix_iff_getElem?.1 inv.taken index inside, same]
  have asked := List.getElem?_eq_getElem (show index < state.raised.length by omega)
  refine ⟨?_, published, _, asked, ?_⟩
  · have number := congrArg (·[index]?) inv.numbered
    rw [List.getElem?_map, published, List.getElem?_range (by omega)] at number
    exact Option.some.inj number
  · have seen := List.prefix_iff_getElem?.1 inv.seen index (by omega)
    rw [List.getElem?_map, asked, Option.map_some, Option.some.injEq] at seen
    rw [List.getElem?_eq_getElem (by omega), seen]

theorem faithful : state.Faithful where
  single := inv.single
  whole := inv.written
  served_once := inv.seen
  kept := fun _ => inv.kept
  request_writer := fun _ => inv.joined.request_writer
  request_exclusive := inv.request_exclusive
  response_writer := fun _ => inv.joined.response_writer
  response_exclusive := inv.response_exclusive
  complete := fun _ => inv.complete
  own := fun _ _ => inv.own

end Invariant

/-- Whatever the order of the steps, whichever requests do not fit and whenever the client gives up. -/
theorem faithful_of_reaches {memory : Region.Memory} (pair : RegionPair memory)
    (clientPoller serverPoller : Poller) {state : Rendezvous}
    (reached : (start pair clientPoller serverPoller).Reaches state) : state.Faithful :=
  ((Invariant.start pair clientPoller serverPoller).reaches reached).faithful

/-- Two regions of one payload byte, with flags that earlier users have left raised. -/
def usedPair : RegionPair ⟨[⟨Wire.Opcode.read.byte, [7]⟩, ⟨Wire.Status.ok.byte, [7]⟩]⟩ where
  request := ⟨⟨0, 2⟩, .anonymous 1⟩
  response := ⟨⟨1, 2⟩, .anonymous 2⟩
  apart := by decide
  request_inside := by decide
  response_inside := by decide

/-- A request that does not fit is followed by one to close, which is carried through to its end. -/
theorem faithful_of_closing : ∃ state : Rendezvous,
    (start usedPair ⟨.yield, 0, none⟩ ⟨.spin, 0, none⟩).Reaches state ∧ state.serverPhase = .ended ∧
      state.received = [⟨0, Wire.Status.ok.byte, ⟨[7], 0⟩⟩] ∧ state.Faithful := by
  let begun := start usedPair ⟨.yield, 0, none⟩ ⟨.spin, 0, none⟩
  let dropped := begun.write .read [.word 0]
  let raised := (dropped.write .close []).raise .close []
  let noticed := raised.notice Wire.Opcode.close.byte
  let served := noticed.serve Wire.Opcode.close.byte (.answering ⟨.ok, [], true⟩ false)
  let published := ((served.reply ⟨.ok, [], true⟩ false).lower ⟨.ok, [], true⟩).publish ⟨.ok, [], true⟩
  let looked := published.look 0 .close
  let received := looked.read 0 .close Wire.Status.ok.byte fun _ => (pure () : Wire.Reader Unit)
  have raising : begun.Reaches raised := by
    apply Relation.ReflTransGen.tail _ (Step.raise rfl)
    apply Relation.ReflTransGen.tail _ (Step.write .close [] rfl rfl)
    exact Relation.ReflTransGen.single (Step.write .read [.word 0] rfl rfl)
  have serving : raised.Reaches published := by
    apply Relation.ReflTransGen.tail _ (Step.publish rfl)
    apply Relation.ReflTransGen.tail _ (Step.lower rfl)
    apply Relation.ReflTransGen.tail _ (Step.reply rfl)
    apply Relation.ReflTransGen.tail _ (Step.serve rfl (.closed rfl rfl))
    exact Relation.ReflTransGen.single (Step.notice rfl rfl)
  have receiving : published.Reaches received.release := by
    apply Relation.ReflTransGen.tail _ (Step.release rfl)
    apply Relation.ReflTransGen.tail _ (Step.read rfl _)
    exact Relation.ReflTransGen.single (Step.look rfl (by decide))
  have reached := (raising.trans serving).trans receiving
  exact ⟨received.release, reached, rfl, rfl, faithful_of_reaches usedPair _ _ reached⟩

end SharedRecords.Channel.Rendezvous
