import SharedRecords.Proofs.Region.Pool
import SharedRecords.Proofs.Session.Turns

/-!
What a session can do to what it shares. It takes no cell away and leaves the pool sound, it plans no
faults, and it stays on the channel it has until it ends.
-/

namespace SharedRecords

namespace Store.Backend

variable {backend later : Backend}

theorem guarded_faults {α : Type} {entry : Entry} {act : Except Error α × Store} {result : Except Error α}
    (done : backend.guarded entry act = .finished result later) : later.faults = backend.faults := by
  unfold guarded at done
  split at done
  · rw [← (Effect.finished.inj done).2]
  · contradiction
  · rw [← (Effect.finished.inj done).2]

theorem handle_faults {context counted : Context} {request : Wire.Request} {outcome : Outcome}
    (done : backend.handle context request = (.finished outcome later, counted)) :
    later.faults = backend.faults := by
  unfold handle at done
  dsimp only at done
  split at done
  · rw [← (Effect.finished.inj (congrArg Prod.fst done)).2]
  · cases congrArg Prod.fst done
  · rw [← (Effect.finished.inj (congrArg Prod.fst done)).2]

end Store.Backend

namespace Channel.ServerEnd

variable (server : ServerEnd) (memory : Region.Memory) (status : Wire.Status) (message : Wire.Message)

theorem next_publish : (server.publish memory status).next = memory.next := by
  unfold publish
  rw [Region.Memory.next_setFlag, Region.Memory.next_setFlag]

theorem next_respond : (server.respond memory status message).2.next = memory.next := by
  have next := Region.Window.next_write server.response.toWindow memory message
  unfold respond
  generalize server.response.write memory message = attempt at next
  obtain ⟨failure, written⟩ := attempt
  cases failure with
  | some error => exact next
  | none => exact (server.next_publish written status).trans next

end Channel.ServerEnd

namespace Session

theorem next_publish (server : Channel.ServerEnd) (memory : Region.Memory) (status : Wire.Status)
    (message : Wire.Message) : (publish server memory status message).2.next = memory.next := by
  have first := server.next_respond memory status message
  unfold publish
  generalize server.respond memory status message = attempt at first
  obtain ⟨failure, written⟩ := attempt
  cases failure with
  | none => exact first
  | some error =>
    dsimp only
    have second := server.next_respond written .failed
      [.text (overflowNote status error server.replyCapacity)]
    generalize server.respond written .failed _ = attempt at second
    obtain ⟨failure, last⟩ := attempt
    cases failure with
    | none => exact second.trans first
    | some _ => exact second.trans first

namespace Resources

/-- The pool is sound and no fault is planned. -/
structure Sound (resources : Resources) : Prop where
  pool : resources.pool.Sound
  faultless : ∀ entry, resources.backend.faults entry = none

structure Steady (before later : Resources) : Prop where
  next : before.memory.next ≤ later.memory.next
  sound : before.Sound → later.Sound

namespace Steady

variable {before between later : Resources}

theorem refl (resources : Resources) : resources.Steady resources := ⟨Nat.le_refl _, fun sound => sound⟩

theorem trans (first : before.Steady between) (second : between.Steady later) : before.Steady later :=
  ⟨Nat.le_trans first.next second.next, second.sound ∘ first.sound⟩

theorem write {memory : Region.Memory} (next : memory.next = before.memory.next) (metrics : Metrics) :
    before.Steady { before.setMemory memory with metrics } where
  next := Nat.le_of_eq next.symm
  sound sound := ⟨sound.pool.setMemory next, sound.faultless⟩

theorem serve {backend : Store.Backend} (faults : backend.faults = before.backend.faults) (metrics : Metrics) :
    before.Steady { before with backend, metrics } where
  next := Nat.le_refl _
  sound sound := ⟨sound.pool, by rw [faults]; exact sound.faultless⟩

theorem release (resources : Resources) (handle : Region.Handle) :
    resources.Steady (resources.release handle) where
  next := Nat.le_of_eq (congrArg Region.Memory.next (Region.Pool.memory_release _ _)).symm
  sound sound := ⟨sound.pool.release handle, sound.faultless⟩

end Steady

end Resources

variable {session : Session} {resources : Resources} {link : Link}

/-- What a turn of a session does to it and to what it shares. -/
structure Orderly (session : Session) (resources : Resources) (turn : Session × Resources) : Prop where
  steady : resources.Steady turn.2
  channel : ∀ link, turn.1.link = some link → ∃ old, session.link = some old ∧ link.channel = old.channel

theorem teardown_steady (session : Session) (result : Except Error Summary) (resources : Resources) :
    resources.Steady (session.teardown result resources).2 := by
  have released (session : Session) : resources.Steady (session.releaseRegions resources).2 := by
    unfold releaseRegions
    dsimp only
    split
    · exact (Resources.Steady.release _ _).trans (Resources.Steady.release _ _)
    · exact .refl _
  have closed (session : Session) (resources : Resources) :
      resources.Steady (session.closeContext result resources).2 := by
    unfold closeContext
    cases done : resources.backend.closeContext with
    | crashed => exact .refl _
    | finished _ backend => exact .serve (Store.Backend.guarded_faults done) _
  unfold teardown
  exact (released _).trans (closed _ _)

theorem abort_orderly (session : Session) (resources : Resources) (channel : Channel.ServerEnd) (cause : Violation) :
    session.Orderly resources (session.abort channel cause resources) where
  steady := by
    have wrote := channel.next_publish resources.memory .aborted
    exact (Resources.Steady.write wrote _).trans (teardown_steady _ _ _)
  channel := by
    intro link held
    rw [abort_link] at held
    contradiction

theorem conclude_orderly (session : Session) (resources : Resources) {opcode : Wire.Opcode}
    {outcome : Store.Outcome} {elapsed : Duration}
    {proceed : Session → Resources → Session × Resources} (held : session.link = some link)
    (proceeds : ∀ (later : Session) (resources : Resources), later.link = some link →
      later.Orderly resources (proceed later resources)) :
    session.Orderly resources (session.conclude link opcode outcome elapsed resources proceed) := by
  have next := next_publish link.channel resources.memory outcome.status outcome.chunks
  unfold conclude
  generalize publish link.channel resources.memory outcome.status outcome.chunks = attempt at next
  obtain ⟨result, memory⟩ := attempt
  cases result with
  | error cause =>
    obtain ⟨steady, channel⟩ := abort_orderly session (resources.setMemory memory) link.channel cause
    exact ⟨(Resources.Steady.write next resources.metrics).trans steady, channel⟩
  | ok status =>
    let published := { resources.setMemory memory with metrics := resources.metrics.record opcode status elapsed }
    obtain ⟨steady, channel⟩ := proceeds (session.note (.published status)) published held
    exact ⟨(Resources.Steady.write next _).trans steady, channel⟩

theorem handle_orderly {request : Wire.Request} {elapsed : Duration} (held : session.link = some link) :
    session.Orderly resources (session.handle link request elapsed resources) := by
  unfold handle
  rcases done : resources.backend.handle link.context request with ⟨effect, context⟩
  cases effect with
  | crashed => exact ⟨.refl _, nofun⟩
  | finished outcome backend =>
    have faults := Store.Backend.handle_faults done
    have proceeds (later : Session) (resources : Resources) (kept : later.link = some link) :
        later.Orderly resources ({ later with link := some { link with context } }, resources) := by
      refine ⟨.refl _, ?_⟩
      intro other moved
      refine ⟨link, kept, ?_⟩
      rw [← Option.some.inj moved]
    obtain ⟨steady, channel⟩ := conclude_orderly session { resources with backend } held proceeds
    exact ⟨(Resources.Steady.serve faults resources.metrics).trans steady, channel⟩

theorem take_orderly {flag : UInt8} {elapsed : Duration} (held : session.link = some link) :
    session.Orderly resources (session.take link flag elapsed resources) := by
  let counted := { session with requests := session.requests + 1 }
  have kept : counted.link = some link := held
  suffices taken : counted.Orderly resources (session.take link flag elapsed resources) from
    ⟨taken.steady, taken.channel⟩
  unfold take
  dsimp only
  cases Wire.Opcode.ofByte? flag with
  | none => exact abort_orderly counted resources link.channel _
  | some opcode =>
    dsimp only
    cases link.channel.decode resources.memory (Wire.Request.reader opcode) with
    | error error => exact abort_orderly counted resources link.channel _
    | ok request =>
      cases request with
      | close =>
        apply conclude_orderly counted resources kept
        intro later resources _
        refine ⟨teardown_steady _ _ _, ?_⟩
        intro other moved
        rw [teardown_link] at moved
        contradiction
      | read | scan | insert | update | delete => exact handle_orderly kept

theorem serve_orderly (session : Session) (elapsed : Duration) (resources : Resources) :
    session.Orderly resources (session.serve elapsed resources) := by
  have unchanged : session.Orderly resources (session, resources) :=
    ⟨.refl _, fun link held => ⟨link, held, rfl⟩⟩
  unfold serve pending?
  cases held : session.link with
  | none => exact unchanged
  | some link =>
    dsimp only
    cases link.channel.pending? resources.memory with
    | none => exact unchanged
    | some flag => exact take_orderly held

end Session

end SharedRecords
