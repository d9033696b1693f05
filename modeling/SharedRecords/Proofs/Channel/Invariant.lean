import Mathlib.Data.List.Infix
import SharedRecords.Proofs.Channel.Frames

/-!
What holds of a rendezvous between any two steps. The four records are prefixes of one another up to
the one request that may be outstanding, and where an end stands says how far each of them has come.
-/

namespace SharedRecords.Channel

namespace ClientEnd

theorem ready_of_willing {client : ClientEnd} (willing : client.refusal? = none) : client.state = .ready := by
  unfold refusal? at willing
  cases state : client.state with
  | ready => rfl
  | closed | poisoned =>
    rw [state] at willing
    contradiction

end ClientEnd

/-- What the place of the client in its call tells. -/
def ClientPhase.Holds (phase : ClientPhase) (state : Rendezvous) : Prop :=
  match phase with
  | .idle => state.client.state = .ready → state.received.length = state.raised.length
  | .written _ message => state.received.length = state.raised.length ∧ state.asked.Carries message
  | .waiting number _ => number = state.received.length ∧ state.raised.length = number + 1
  | .taking number _ flag => number = state.received.length ∧ state.raised.length = number + 1 ∧
      number < state.published.length ∧ flag = state.told.flag
  | .lowering => state.received.length = state.raised.length

/-- The request taken last is the latest, and it is not yet answered. -/
def Rendezvous.Unanswered (state : Rendezvous) : Prop :=
  state.served.length = state.raised.length ∧ state.published.length + 1 = state.raised.length

/-- What the place of the session in its loop tells. -/
def ServerPhase.Holds (phase : ServerPhase) (state : Rendezvous) : Prop :=
  match phase with
  | .polling => state.published.length = state.served.length
  | .taken flag => state.published.length = state.served.length ∧
      state.served.length < state.raised.length ∧ flag = state.asked.flag
  | .answering _ _ => state.Unanswered
  | .lowering answer => state.Unanswered ∧ state.told.Carries answer.message
  | .raising answer =>
    state.Unanswered ∧ state.asked.flag = Wire.emptyFlag ∧ state.told.Carries answer.message
  | .ended => True

namespace Rendezvous

variable {state later : Rendezvous}

structure Invariant (state : Rendezvous) : Prop where
  joined : state.Joined
  written : ∀ call ∈ state.raised, call.signal.Carries call.message
  seen : state.served <+: state.raised.map Call.signal
  answered : state.published.length ≤ state.served.length
  numbered : state.published.map Delivery.number = List.range state.published.length
  taken : state.received <+: state.published
  single : state.raised.length ≤ state.received.length + 1
  standing : ∀ call, state.raised[state.served.length]? = some call → state.asked = call.signal
  quiet : state.published.length = state.raised.length → state.asked.flag = Wire.emptyFlag
  lowered : state.received.length = state.published.length → state.clientPhase ≠ .lowering →
    state.told.flag = Wire.emptyFlag
  /-- A response that is published and not yet received stands unchanged. -/
  shown : ∀ delivery, state.published[state.received.length]? = some delivery → delivery.signal = state.told
  client : state.clientPhase.Holds state
  server : state.serverPhase.Holds state

namespace Invariant

theorem start {memory : Region.Memory} (pair : RegionPair memory) (clientPoller serverPoller : Poller) :
    (Rendezvous.start pair clientPoller serverPoller).Invariant where
  joined := .start pair clientPoller serverPoller
  written := by
    intro call member
    cases member
  seen := List.nil_prefix
  answered := Nat.le_refl 0
  numbered := rfl
  taken := List.nil_prefix
  single := Nat.zero_le 1
  standing := by
    intro call found
    cases found
  quiet := by
    intro _
    show ((memory.setFlag pair.request.index _).setFlag pair.response.index _).flag pair.request.index = _
    rw [Region.Memory.flag_setFlag_of_ne pair.apart.symm, Region.Memory.flag_setFlag pair.request_inside]
  lowered := by
    intro _ _
    show ((memory.setFlag pair.request.index _).setFlag pair.response.index _).flag pair.response.index = _
    apply Region.Memory.flag_setFlag
    rw [Region.Memory.next_setFlag]
    exact pair.response_inside
  shown := by
    intro delivery found
    cases found
  client := fun _ => rfl
  server := rfl

variable (inv : state.Invariant)
include inv

theorem received_le : state.received.length ≤ state.published.length := inv.taken.length_le

theorem served_le : state.served.length ≤ state.raised.length := by
  have shorter := inv.seen.length_le
  rwa [List.length_map] at shorter

theorem settled (level : state.received.length = state.raised.length) :
    state.published.length = state.raised.length ∧ state.served.length = state.raised.length := by
  have received := inv.received_le
  have answered := inv.answered
  have served := inv.served_le
  omega

theorem awaited (unanswered : state.Unanswered) : state.received.length = state.published.length := by
  obtain ⟨served, published⟩ := unanswered
  have received := inv.received_le
  have single := inv.single
  omega

theorem write {opcode : Wire.Opcode} {message : Wire.Message} (idle : state.clientPhase = .idle)
    (willing : state.client.refusal? = none) : (state.write opcode message).Invariant := by
  have level := inv.client
  rw [idle] at level
  replace level := level (ClientEnd.ready_of_willing willing)
  have told := inv.joined.told_write opcode message
  have flag := asked_flag_write state opcode message
  refine { inv with
    joined := inv.joined.step (.write opcode message idle willing)
    standing := ?_, quiet := ?_, lowered := ?_, shown := ?_, client := ?_, server := ?_ }
  · intro call found
    change state.raised[state.served.length]? = some call at found
    rw [(inv.settled level).2, List.getElem?_eq_none (Nat.le_refl _)] at found
    contradiction
  · intro same
    rw [flag]
    exact inv.quiet same
  · intro same _
    rw [told]
    apply inv.lowered same
    rw [idle]
    nofun
  · rw [told]
    exact inv.shown
  · show (ClientPhase.afterWrite opcode message _).Holds _
    cases failure : (state.client.request.write state.memory message).1 with
    | none => exact ⟨level, inv.joined.carries_write failure⟩
    | some error => exact fun _ => level
  · unfold ServerPhase.Holds Unanswered
    rw [flag, told]
    exact inv.server

theorem raise {opcode : Wire.Opcode} {message : Wire.Message}
    (written : state.clientPhase = .written opcode message) : (state.raise opcode message).Invariant := by
  have holds := inv.client
  rw [written] at holds
  obtain ⟨level, carries⟩ := holds
  obtain ⟨published, served⟩ := inv.settled level
  have asked := inv.joined.asked_raise opcode message
  have told := inv.joined.told_raise opcode message
  let call : Call := ⟨opcode, message, state.client.request.payload state.memory⟩
  have signal : call.signal = ⟨opcode.byte, state.asked.payload⟩ := by
    unfold Call.signal Rendezvous.asked
    rw [← inv.joined.request]
  have longer : (state.raise opcode message).raised.length = state.raised.length + 1 := List.length_append
  refine { inv with
    joined := inv.joined.step (.raise written)
    written := ?_, seen := ?_, single := ?_, standing := ?_, quiet := ?_, lowered := ?_, shown := ?_,
    client := ?_, server := ?_ }
  · intro earlier member
    rcases List.mem_append.1 member with old | new
    · exact inv.written earlier old
    · rw [List.mem_singleton.1 new]
      show call.signal.Carries message
      rw [signal]
      exact carries
  · apply inv.seen.trans
    show _ <+: (state.raised ++ [call]).map Call.signal
    rw [List.map_append]
    exact List.prefix_append _ _
  · rw [longer, ← level]
    exact Nat.le_refl _
  · intro found same
    change (state.raised ++ [call])[state.served.length]? = some found at same
    rw [served, List.getElem?_concat_length, Option.some.injEq] at same
    rw [← same, signal, asked]
  · intro same
    rw [longer] at same
    change state.published.length = state.raised.length + 1 at same
    omega
  · intro same _
    rw [told]
    apply inv.lowered same
    rw [written]
    nofun
  · rw [told]
    exact inv.shown
  · refine ⟨?_, longer⟩
    exact level.symm
  · have holds := inv.server
    show state.serverPhase.Holds _
    cases phase : state.serverPhase with
    | polling =>
      rw [phase] at holds
      exact holds
    | taken flag =>
      rw [phase] at holds
      have unserved := holds.2.1
      omega
    | answering answer excused =>
      rw [phase] at holds
      have unanswered := holds.2
      omega
    | lowering answer | raising answer =>
      rw [phase] at holds
      have unanswered := holds.1.2
      omega
    | ended => trivial

theorem look {number : Nat} {opcode : Wire.Opcode} (waiting : state.clientPhase = .waiting number opcode)
    (visible : state.memory.flag state.client.response.index ≠ Wire.emptyFlag) :
    (state.look number opcode).Invariant := by
  have holds := inv.client
  rw [waiting] at holds
  obtain ⟨latest, single⟩ := holds
  rw [inv.joined.response] at visible
  -- if all that was published had been received, the flag would be lowered
  have fresh : state.received.length ≠ state.published.length := by
    intro same
    apply visible
    apply inv.lowered same
    rw [waiting]
    nofun
  have received := inv.received_le
  refine { inv with
    joined := inv.joined.step (.look waiting ?_)
    lowered := ?_, client := ?_ }
  · rw [inv.joined.response]
    exact visible
  · intro same _
    exact absurd same fresh
  · refine ⟨latest, single, ?_, ?_⟩
    · show number < state.published.length
      omega
    · show state.memory.flag state.client.response.index = _
      rw [inv.joined.response]
      rfl

theorem timeOut {number : Nat} {opcode : Wire.Opcode} (waiting : state.clientPhase = .waiting number opcode) :
    state.timeOut.Invariant := by
  refine { inv with
    joined := inv.joined.step (.timeOut waiting)
    lowered := ?_, client := ?_ }
  · intro same _
    apply inv.lowered same
    rw [waiting]
    nofun
  · intro ready
    contradiction

omit inv in
theorem prefix_concat {α : Type} {front whole : List α} {value : α} (part : front <+: whole)
    (next : whole[front.length]? = some value) : front ++ [value] <+: whole := by
  obtain ⟨inside, same⟩ := List.getElem?_eq_some_iff.1 next
  rw [← same]
  exact List.concat_get_prefix part inside

theorem next_delivery (fresh : state.received.length < state.published.length) :
    state.published[state.received.length]? = some ⟨state.received.length, state.told⟩ := by
  have found := List.getElem?_eq_getElem fresh
  have number := congrArg (·[state.received.length]?) inv.numbered
  rw [List.getElem?_map, found, List.getElem?_range fresh] at number
  have signal := inv.shown _ found
  rw [found, Option.some.injEq]
  generalize state.published[state.received.length] = delivery at number signal
  cases delivery with
  | mk deliveryNumber deliverySignal =>
    rw [Option.map_some, Option.some.injEq] at number
    exact congrArg₂ Delivery.mk number signal

theorem read {α : Type} {number : Nat} {opcode : Wire.Opcode} {flag : UInt8}
    (taking : state.clientPhase = .taking number opcode flag) (reader : Wire.Status → Wire.Reader α) :
    (state.read number opcode flag reader).Invariant := by
  have holds := inv.client
  rw [taking] at holds
  obtain ⟨latest, single, fresh, same⟩ := holds
  have longer : (state.read number opcode flag reader).received.length = state.received.length + 1 :=
    List.length_append
  have answered := inv.answered
  have served := inv.served_le
  refine { inv with
    joined := inv.joined.step (.read taking reader)
    taken := ?_, single := ?_, lowered := ?_, shown := ?_, client := ?_ }
  · apply prefix_concat inv.taken
    rw [inv.next_delivery (latest ▸ fresh), latest, same, inv.joined.response]
    rfl
  · rw [longer, ← latest, ← single]
    exact Nat.le_succ _
  · intro _ lowering
    exact absurd rfl lowering
  · intro delivery found
    rw [longer] at found
    obtain ⟨inside, _⟩ := List.getElem?_eq_some_iff.1 found
    change state.received.length + 1 < state.published.length at inside
    omega
  · show (state.read number opcode flag reader).received.length = state.raised.length
    rw [longer, ← latest, single]

theorem release (lowering : state.clientPhase = .lowering) : state.release.Invariant := by
  have level := inv.client
  rw [lowering] at level
  have asked := inv.joined.asked_release
  have told := inv.joined.told_release
  refine { inv with
    joined := inv.joined.step (.release lowering)
    standing := ?_, quiet := ?_, lowered := ?_, shown := ?_, client := ?_, server := ?_ }
  · rw [asked]
    exact inv.standing
  · rw [asked]
    exact inv.quiet
  · intro _ _
    rw [told]
  · intro delivery found
    change state.published[state.received.length]? = some delivery at found
    obtain ⟨inside, _⟩ := List.getElem?_eq_some_iff.1 found
    have none_left : state.received.length = state.raised.length := level
    have settled := inv.settled level
    omega
  · exact fun _ => level
  · unfold ServerPhase.Holds Unanswered
    rw [asked, told]
    exact inv.server

theorem notice {flag : UInt8} (polling : state.serverPhase = .polling)
    (pending : state.server.pending? state.memory = some flag) : (state.notice flag).Invariant := by
  have answered := inv.server
  rw [polling] at answered
  replace answered : state.published.length = state.served.length := answered
  refine { inv with
    joined := inv.joined.step (.notice polling pending)
    server := ?_ }
  unfold ServerEnd.pending? at pending
  dsimp only at pending
  by_cases quiet : state.memory.flag state.server.request.index = Wire.emptyFlag
  · rw [if_pos quiet] at pending
    contradiction
  · rw [if_neg quiet, Option.some.injEq] at pending
    refine ⟨answered, ?_, pending.symm⟩
    have unsettled : state.published.length ≠ state.raised.length := by
      intro same
      exact quiet (inv.quiet same)
    have served := inv.served_le
    show state.served.length < state.raised.length
    omega

theorem serve {flag : UInt8} {phase : ServerPhase} (taken : state.serverPhase = .taken flag)
    (answers : Answers state.server state.memory flag phase) : (state.serve flag phase).Invariant := by
  have holds := inv.server
  rw [taken] at holds
  obtain ⟨answered, unserved, same⟩ := holds
  have received := inv.received_le
  have single := inv.single
  have longer : (state.serve flag phase).served.length = state.served.length + 1 := List.length_append
  have unanswered : (state.serve flag phase).Unanswered := by
    constructor
    · rw [longer]
      show state.served.length + 1 = state.raised.length
      omega
    · show state.published.length + 1 = state.raised.length
      omega
  refine { inv with
    joined := inv.joined.step (.serve taken answers)
    seen := ?_, answered := ?_, standing := ?_, server := ?_ }
  · apply prefix_concat inv.seen
    rw [List.getElem?_map, List.getElem?_eq_getElem unserved, Option.map_some, Option.some.injEq,
      ← inv.standing _ (List.getElem?_eq_getElem unserved), same]
    rfl
  · rw [longer]
    exact Nat.le_succ_of_le inv.answered
  · intro call found
    obtain ⟨inside, _⟩ := List.getElem?_eq_some_iff.1 found
    rw [unanswered.1] at inside
    exact absurd inside (Nat.lt_irrefl _)
  · show phase.Holds _
    cases answers with
    | unknown strange => exact ⟨unanswered, Signal.carries_nil _⟩
    | malformed known refused => exact ⟨unanswered, Signal.carries_nil _⟩
    | closed known decoded => exact unanswered
    | handled known decoded other outcome => exact unanswered
    | crashed known decoded other => trivial

theorem reply {answer : Answer} {excused : Bool} (answering : state.serverPhase = .answering answer excused) :
    (state.reply answer excused).Invariant := by
  have unanswered := inv.server
  rw [answering] at unanswered
  have awaited := inv.awaited unanswered
  have asked := inv.joined.asked_reply answer excused
  have flag := told_flag_reply state answer excused
  refine { inv with
    joined := inv.joined.step (.reply answering)
    standing := ?_, quiet := ?_, lowered := ?_, shown := ?_, client := ?_, server := ?_ }
  · rw [asked]
    exact inv.standing
  · rw [asked]
    exact inv.quiet
  · rw [flag]
    exact inv.lowered
  · intro delivery found
    change state.published[state.received.length]? = some delivery at found
    rw [awaited, List.getElem?_eq_none (Nat.le_refl _)] at found
    contradiction
  · unfold ClientPhase.Holds
    rw [asked, flag]
    exact inv.client
  · show (ServerPhase.afterWrite answer excused _ _).Holds _
    cases failure : (state.server.response.write state.memory answer.message).1 with
    | none => exact ⟨unanswered, inv.joined.carries_reply failure⟩
    | some error =>
      cases excused with
      | true => exact ⟨unanswered, Signal.carries_nil _⟩
      | false => exact unanswered

theorem lower {answer : Answer} (lowering : state.serverPhase = .lowering answer) :
    (state.lower answer).Invariant := by
  have holds := inv.server
  rw [lowering] at holds
  obtain ⟨unanswered, carries⟩ := holds
  have asked := inv.joined.asked_lower answer
  have told := inv.joined.told_lower answer
  refine { inv with
    joined := inv.joined.step (.lower lowering)
    standing := ?_, quiet := ?_, lowered := ?_, shown := ?_, client := ?_, server := ?_ }
  · intro call found
    change state.raised[state.served.length]? = some call at found
    rw [unanswered.1, List.getElem?_eq_none (Nat.le_refl _)] at found
    contradiction
  · intro _
    rw [asked]
  · rw [told]
    exact inv.lowered
  · rw [told]
    exact inv.shown
  · unfold ClientPhase.Holds
    rw [asked, told]
    exact inv.client
  · refine ⟨unanswered, ?_, ?_⟩
    · rw [asked]
    · rw [told]
      exact carries

theorem publish {answer : Answer} (raising : state.serverPhase = .raising answer) :
    (state.publish answer).Invariant := by
  have holds := inv.server
  rw [raising] at holds
  obtain ⟨unanswered, quiet, carries⟩ := holds
  have awaited := inv.awaited unanswered
  obtain ⟨served, published⟩ := unanswered
  have asked := inv.joined.asked_publish answer
  have told := inv.joined.told_publish answer
  have longer : (state.publish answer).published.length = state.published.length + 1 := List.length_append
  have number : state.served.length - 1 = state.published.length := by omega
  refine { inv with
    joined := inv.joined.step (.publish raising)
    answered := ?_, numbered := ?_, taken := ?_, standing := ?_, quiet := ?_, lowered := ?_, shown := ?_,
    client := ?_, server := ?_ }
  · rw [longer]
    show state.published.length + 1 ≤ state.served.length
    omega
  · rw [longer, List.range_succ, ← inv.numbered, ← number]
    exact List.map_append
  · exact inv.taken.trans (List.prefix_append _ _)
  · rw [asked]
    exact inv.standing
  · intro _
    rw [asked]
    exact quiet
  · intro same _
    rw [longer] at same
    change state.received.length = state.published.length + 1 at same
    omega
  · intro delivery found
    change (state.published ++ _)[state.received.length]? = some delivery at found
    rw [awaited, List.getElem?_concat_length, Option.some.injEq] at found
    rw [← found, told]
    rfl
  · have holds := inv.client
    show state.clientPhase.Holds _
    cases phase : state.clientPhase with
    | idle | waiting | lowering =>
      rw [phase] at holds
      exact holds
    | written opcode message =>
      rw [phase] at holds
      refine ⟨holds.1, ?_⟩
      rw [asked]
      exact holds.2
    | taking taker opcode flag =>
      rw [phase] at holds
      obtain ⟨latest, _, fresh, _⟩ := holds
      omega
  · show (ServerPhase.afterPublish answer).Holds _
    unfold ServerPhase.afterPublish
    cases answer.last with
    | true => trivial
    | false =>
      show (state.publish answer).published.length = state.served.length
      rw [longer]
      omega

theorem step (taken : Step state later) : later.Invariant := by
  cases taken with
  | write opcode message idle willing => exact inv.write idle willing
  | raise written => exact inv.raise written
  | look waiting visible => exact inv.look waiting visible
  | timeOut waiting => exact inv.timeOut waiting
  | read taking reader => exact inv.read taking reader
  | release lowering => exact inv.release lowering
  | notice polling pending => exact inv.notice polling pending
  | serve taken answers => exact inv.serve taken answers
  | reply answering => exact inv.reply answering
  | lower lowering => exact inv.lower lowering
  | publish raising => exact inv.publish raising

theorem reaches (reached : state.Reaches later) : later.Invariant := by
  induction reached with
  | refl => exact inv
  | tail _ taken ih => exact ih.step taken

end Invariant

end Rendezvous

end SharedRecords.Channel
