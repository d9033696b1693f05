import SharedRecords.Proofs.Channel.Frames

/-!
The operations of both ends as steps. What an end does in one go, when nothing comes between, is what
its steps do one after another.
-/

namespace SharedRecords.Channel.Rendezvous

open Region (Memory)

variable {state : Rendezvous}

theorem submit_reaches (idle : state.clientPhase = .idle) (opcode : Wire.Opcode) (message : Wire.Message) :
    ∃ phase raised, state.Reaches { state with
        memory := (state.client.submit state.memory opcode message).2, clientPhase := phase, raised } ∧
      phase = if (state.client.submit state.memory opcode message).1 = none then
        .waiting state.raised.length opcode else .idle := by
  unfold ClientEnd.submit
  cases willing : state.client.refusal? with
  | some error => exact ⟨.idle, state.raised, by rw [← idle]; exact .refl, rfl⟩
  | none =>
    have wrote : state.Reaches (state.write opcode message) := .single (.write opcode message idle willing)
    rcases attempt : state.client.request.write state.memory message with ⟨failure, memory⟩
    have reached : state.Reaches { state with
        memory, clientPhase := ClientPhase.afterWrite opcode message failure } := by
      unfold write at wrote
      rw [attempt] at wrote
      exact wrote
    cases failure with
    | some error => exact ⟨.idle, state.raised, reached, rfl⟩
    | none => exact ⟨.waiting state.raised.length opcode, _, reached.tail (.raise rfl), rfl⟩

theorem release_read {α : Type} (state : Rendezvous) (number : Nat) (opcode : Wire.Opcode) (flag : UInt8)
    (reader : Wire.Status → Wire.Reader α) :
    (state.read number opcode flag reader).release = { state.read number opcode flag reader with
      memory := state.memory.setFlag state.client.response.index Wire.emptyFlag
      clientPhase := .idle } := by
  unfold release
  rw [show (state.read number opcode flag reader).client.response = state.client.response from
    ClientEnd.interpret_response _ _ _ _ reader]
  rfl

theorem finish_reaches {α : Type} {number : Nat} {opcode : Wire.Opcode} {memory : Memory}
    {reader : Wire.Status → Wire.Reader α} {result : Except Error α} {client : ClientEnd}
    (waiting : state.clientPhase = .waiting number opcode)
    (finished : state.client.finish state.memory opcode reader = some (result, client, memory)) :
    ∃ received, state.Reaches { state with memory, client, clientPhase := .idle, received } := by
  unfold ClientEnd.finish Poller.settle at finished
  by_cases visible : state.memory.flag state.client.response.index = Wire.emptyFlag
  · rw [visible] at finished
    cases timed : state.client.poller.deadline with
    | none =>
      rw [timed] at finished
      contradiction
    | some deadline =>
      rw [timed] at finished
      cases noticed : state.client.poller.notices state.client.pace deadline with
      | false =>
        simp only [noticed, bne_self_eq_false, Bool.false_eq_true, if_false] at finished
        contradiction
      | true =>
        simp only [noticed, bne_self_eq_false, Bool.false_eq_true, if_false, if_true] at finished
        obtain ⟨_, rfl, rfl⟩ := Option.some.inj finished
        exact ⟨state.received, .single (.timeOut waiting)⟩
  · rw [if_pos (bne_iff_ne.2 visible)] at finished
    obtain ⟨_, rfl, rfl⟩ := Option.some.inj finished
    have looked : state.Reaches (state.look number opcode) := .single (.look waiting visible)
    have released := (looked.tail (.read rfl reader)).tail (.release rfl)
    rw [release_read] at released
    exact ⟨_, released⟩

theorem publish_reaches (state : Rendezvous) {answer : Answer} (lowering : state.serverPhase = .lowering answer) :
    ∃ published, state.Reaches { state with
      memory := state.server.publish state.memory answer.status
      serverPhase := .afterPublish answer
      published } := by
  have lowered : state.Reaches (state.lower answer) := .single (.lower lowering)
  exact ⟨_, lowered.tail (.publish rfl)⟩

theorem respond_reaches (state : Rendezvous) {answer : Answer} {excused : Bool} {memory : Memory}
    (answering : state.serverPhase = .answering answer excused)
    (fits : state.server.respond state.memory answer.status answer.message = (none, memory)) :
    ∃ published, state.Reaches { state with
      memory, serverPhase := .afterPublish answer, published } := by
  have replied : state.Reaches (state.reply answer excused) := .single (.reply answering)
  unfold ServerEnd.respond at fits
  unfold reply at replied
  rcases attempt : state.server.response.write state.memory answer.message with ⟨failure, written⟩
  rw [attempt] at fits replied
  cases failure with
  | some error => cases congrArg Prod.fst fits
  | none =>
    obtain rfl := congrArg Prod.snd fits
    let written := { state with memory := written, serverPhase := .lowering answer }
    obtain ⟨published, reached⟩ := publish_reaches written rfl
    exact ⟨published, replied.trans reached⟩

theorem overflow_reaches (state : Rendezvous) {answer : Answer} {excused : Bool} {error : Wire.Error}
    {memory : Memory} (answering : state.serverPhase = .answering answer excused)
    (overflows : state.server.respond state.memory answer.status answer.message = (some error, memory)) :
    state.Reaches { state with
      memory, serverPhase := .afterWrite answer excused state.server.replyCapacity (some error) } := by
  have replied : state.Reaches (state.reply answer excused) := .single (.reply answering)
  unfold ServerEnd.respond at overflows
  unfold reply at replied
  rcases attempt : state.server.response.write state.memory answer.message with ⟨failure, written⟩
  rw [attempt] at overflows replied
  cases failure with
  | none => cases congrArg Prod.fst overflows
  | some _ =>
    obtain rfl := congrArg Prod.snd overflows
    rw [show _ = some error from congrArg Prod.fst overflows] at replied
    exact replied

/-- A session publishes an answer, or its excuse, and goes on as the answer says; one that has no room
for either aborts. -/
theorem session_publish_reaches {answer : Answer} (answering : state.serverPhase = .answering answer false) :
    match Session.publish state.server state.memory answer.status answer.message with
    | (.ok _, memory) => ∃ published, state.Reaches { state with
        memory, serverPhase := .afterPublish answer, published }
    | (.error _, memory) => ∃ published, state.Reaches { state with
        memory := state.server.abort memory, serverPhase := .ended, published } := by
  unfold Session.publish
  rcases first : state.server.respond state.memory answer.status answer.message with ⟨failure, written⟩
  cases failure with
  | none => exact respond_reaches state answering first
  | some error =>
    have overflowed := overflow_reaches state answering first
    let excuse := answer.excuse error state.server.replyCapacity
    let excusing := { state with memory := written, serverPhase := .answering excuse true }
    dsimp only
    rcases second : state.server.respond written .failed
      [.text (Session.overflowNote answer.status error state.server.replyCapacity)] with ⟨failure, last⟩
    cases failure with
    | none =>
      obtain ⟨published, reached⟩ := respond_reaches excusing rfl second
      exact ⟨published, overflowed.trans reached⟩
    | some _ =>
      have again := overflow_reaches excusing rfl second
      let aborting := { state with memory := last, serverPhase := .lowering .abortion }
      obtain ⟨published, aborted⟩ := publish_reaches aborting rfl
      exact ⟨published, (overflowed.trans again).trans aborted⟩

end SharedRecords.Channel.Rendezvous
