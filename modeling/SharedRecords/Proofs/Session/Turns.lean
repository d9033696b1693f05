import SharedRecords.Proofs.Channel.Calls
import SharedRecords.Proofs.Region.Pool
import SharedRecords.Session.Basic

/-!
A turn of a session as steps. Serving one request in one go comes to the same memory as the steps of
the session's loop do when nothing comes between them, and ends the session when they do.
-/

namespace SharedRecords

namespace Session

open Channel (Rendezvous Answers)

variable (session : Session) (resources : Resources)

theorem releaseRegions_link : (session.releaseRegions resources).1.link = session.link := by
  unfold releaseRegions
  dsimp only
  split
  · rfl
  · rfl

theorem releaseRegions_memory : (session.releaseRegions resources).2.memory = resources.memory := by
  unfold releaseRegions
  dsimp only
  split
  · exact (Region.Pool.memory_release _ _).trans (Region.Pool.memory_release _ _)
  · rfl

theorem closeContext_link (unlinked : session.link = none) (result : Except Error Summary) :
    (session.closeContext result resources).1.link = none := by
  unfold closeContext
  cases resources.backend.closeContext with
  | crashed => rfl
  | finished closed backend => exact unlinked

theorem closeContext_memory (result : Except Error Summary) :
    (session.closeContext result resources).2.memory = resources.memory := by
  unfold closeContext
  cases resources.backend.closeContext with
  | crashed => rfl
  | finished closed backend => rfl

theorem teardown_link (result : Except Error Summary) : (session.teardown result resources).1.link = none := by
  apply closeContext_link
  exact releaseRegions_link _ _

theorem teardown_memory (result : Except Error Summary) :
    (session.teardown result resources).2.memory = resources.memory := by
  unfold teardown
  exact (closeContext_memory _ _ result).trans (releaseRegions_memory _ _)

theorem abort_link (channel : Channel.ServerEnd) (cause : Violation) :
    (session.abort channel cause resources).1.link = none :=
  teardown_link _ _ _

theorem abort_memory (channel : Channel.ServerEnd) (cause : Violation) :
    (session.abort channel cause resources).2.memory = channel.abort resources.memory :=
  teardown_memory _ _ _

def StandsAt (session : Session) (channel : Channel.ServerEnd) (phase : Channel.ServerPhase) : Prop :=
  match phase with
  | .polling => ∃ link, session.link = some link ∧ link.channel = channel
  | .ended => session.link = none
  | _ => False

variable {session resources} {link : Link} {state : Rendezvous}

def Follows (state : Rendezvous) (turn : Session × Resources) : Prop :=
  ∃ phase served published, turn.1.StandsAt state.server phase ∧
    state.Reaches { state with memory := turn.2.memory, serverPhase := phase, served, published }

theorem follows_trans {later : Rendezvous} {turn : Session × Resources} {phase : Channel.ServerPhase}
    {memory : Region.Memory} {served : List Channel.Signal}
    (same : later = { state with memory, serverPhase := phase, served })
    (first : state.Reaches later) (rest : Follows later turn) : Follows state turn := by
  subst same
  obtain ⟨phase, served, published, stands, reached⟩ := rest
  exact ⟨phase, served, published, stands, first.trans reached⟩

theorem follows_abort (joined : link.channel = state.server) (shared : resources.memory = state.memory)
    (lowering : state.serverPhase = .lowering .abortion) (cause : Violation) :
    Follows state (session.abort link.channel cause resources) := by
  obtain ⟨published, reached⟩ := Rendezvous.publish_reaches state lowering
  refine ⟨.ended, state.served, published, abort_link session resources link.channel cause, ?_⟩
  rw [abort_memory, joined, shared]
  exact reached

theorem follows_conclude {opcode : Wire.Opcode} {outcome : Store.Outcome} {last : Bool}
    {proceed : Session → Resources → Session × Resources}
    (joined : link.channel = state.server) (shared : resources.memory = state.memory)
    (answering : state.serverPhase = .answering ⟨outcome.status, outcome.chunks, last⟩ false)
    (keeps : ∀ session resources, (proceed session resources).2.memory = resources.memory)
    (stands : ∀ session resources, (proceed session resources).1.StandsAt state.server
      (.afterPublish ⟨outcome.status, outcome.chunks, last⟩)) (elapsed : Duration) :
    Follows state (session.conclude link opcode outcome elapsed resources proceed) := by
  have reached := Rendezvous.session_publish_reaches answering
  unfold conclude
  rw [joined, shared]
  rcases attempt : publish state.server state.memory outcome.status outcome.chunks with ⟨result, memory⟩
  rw [attempt] at reached
  cases result with
  | error cause =>
    obtain ⟨published, reached⟩ := reached
    refine ⟨.ended, state.served, published, abort_link _ _ _ cause, ?_⟩
    rw [abort_memory]
    exact reached
  | ok status =>
    obtain ⟨published, reached⟩ := reached
    refine ⟨_, state.served, published, stands _ _, ?_⟩
    rw [keeps]
    exact reached

theorem taken_reaches {flag : UInt8} {phase : Channel.ServerPhase} (polling : state.serverPhase = .polling)
    (pending : state.server.pending? state.memory = some flag)
    (answers : Answers state.server state.memory flag phase) :
    state.Reaches ((state.notice flag).serve flag phase) :=
  .tail (.single (.notice polling pending)) (.serve rfl answers)

theorem follows_handle {flag : UInt8} {opcode : Wire.Opcode} {request : Wire.Request}
    (joined : link.channel = state.server) (shared : resources.memory = state.memory)
    (polling : state.serverPhase = .polling) (pending : state.server.pending? state.memory = some flag)
    (known : Wire.Opcode.ofByte? flag = some opcode)
    (decoded : state.server.decode state.memory (Wire.Request.reader opcode) = .ok request)
    (other : request ≠ .close) (elapsed : Duration) :
    Follows state (session.handle link request elapsed resources) := by
  unfold handle
  rcases resources.backend.handle link.context request with ⟨effect, context⟩
  cases effect with
  | crashed =>
    have reached := taken_reaches polling pending (.crashed known decoded other)
    let seen : Channel.Signal := ⟨flag, state.server.request.payload state.memory⟩
    refine ⟨.ended, state.served ++ [seen], state.published, rfl, ?_⟩
    dsimp only
    rw [shared]
    exact reached
  | finished outcome backend =>
    have reached := taken_reaches polling pending (.handled known decoded other outcome)
    apply follows_trans rfl reached
    dsimp only
    apply follows_conclude
    · exact joined
    · exact shared
    · rfl
    · intro _ _
      rfl
    · intro _ _
      exact ⟨{ link with context }, rfl, joined⟩

theorem serve_follows (linked : session.link = some link) (joined : link.channel = state.server)
    (shared : resources.memory = state.memory) (polling : state.serverPhase = .polling)
    (elapsed : Duration) : Follows state (session.serve elapsed resources) := by
  unfold serve pending?
  rw [linked]
  dsimp only
  rw [joined, shared]
  cases pending : state.server.pending? state.memory with
  | none =>
    refine ⟨.polling, state.served, state.published, ⟨link, linked, joined⟩, ?_⟩
    dsimp only [Option.map_none]
    rw [shared, ← polling]
    exact .refl
  | some flag =>
    dsimp only [Option.map_some]
    unfold take
    dsimp only
    cases known : Wire.Opcode.ofByte? flag with
    | none =>
      have reached := taken_reaches polling pending (.unknown known)
      apply follows_trans rfl reached
      apply follows_abort
      · exact joined
      · exact shared
      · rfl
    | some opcode =>
      dsimp only
      rw [joined, shared]
      cases decoded : state.server.decode state.memory (Wire.Request.reader opcode) with
      | error error =>
        have reached := taken_reaches polling pending (.malformed known decoded)
        rw [← joined]
        apply follows_trans rfl reached
        apply follows_abort
        · exact joined
        · exact shared
        · rfl
      | ok request =>
        cases request with
        | close =>
          have reached := taken_reaches polling pending (.closed known decoded)
          apply follows_trans rfl reached
          apply follows_conclude
          · exact joined
          · exact shared
          · rfl
          · intro _ _
            exact teardown_memory _ _ _
          · intro _ _
            exact teardown_link _ _ _
        | read | scan | insert | update | delete =>
          exact follows_handle joined shared polling pending known decoded nofun elapsed

end Session

end SharedRecords
