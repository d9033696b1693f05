import SharedRecords.Proofs.Session.Inversion
import SharedRecords.Proofs.Session.Starting

/-!
A turn of a session with regard to regions. It only writes into them, until the session has published its
last response and starts to give back what it holds.
-/

namespace SharedRecords.Session

variable {session later leaving : Session} {resources between after : Resources} {memory : Region.Memory}
  {result : Except Error Summary}

/-- Regions were written to, and none was allocated, mapped or given back. -/
def Resources.Writes (resources later : Resources) : Prop :=
  ∃ memory, memory.next = resources.memory.next ∧ later.pool = resources.pool.setMemory memory

def unmapped (session : Session) : Session := { (session.enter .closing).note .unmapped with link := none }

theorem open?_pool (session : Session) (channel : Channel.ServerEnd) (resources : Resources) :
    (session.open? channel resources).2.2.pool = resources.pool := by
  unfold open?
  split
  · rfl
  · rfl
  · rfl

theorem closeContext_pool (session : Session) (result : Except Error Summary) (resources : Resources) :
    (session.closeContext result resources).2.pool = resources.pool := by
  unfold closeContext
  split
  · rfl
  · rfl

theorem releaseRegions_eq (session : Session) (resources : Resources) :
    ∃ handles : List Region.Handle, (session.releaseRegions resources).1 =
      { session with journal := handles.map .released ++ session.journal } := by
  unfold releaseRegions
  dsimp only
  split
  · exact ⟨[session.holding.response, session.holding.request], rfl⟩
  · exact ⟨[], rfl⟩

theorem releaseRegions_state (session : Session) (resources : Resources) :
    (session.releaseRegions resources).1.state = session.state := by
  obtain ⟨_, released⟩ := session.releaseRegions_eq resources
  rw [released]

theorem closeContext_state (session : Session) (result : Except Error Summary) (resources : Resources) :
    (session.closeContext result resources).1.state = session.state ∨
      (session.closeContext result resources).1.state = .terminated := by
  unfold closeContext
  split
  · exact .inl rfl
  · exact .inr rfl

theorem teardown_state (session : Session) (result : Except Error Summary) (resources : Resources) :
    (session.teardown result resources).1.state ≠ .serving := by
  have closing := releaseRegions_state session.unmapped resources
  unfold teardown
  rcases closeContext_state (session.unmapped.releaseRegions resources).1 result
    (session.unmapped.releaseRegions resources).2 with same | terminated
  · change _ = (session.unmapped.releaseRegions resources).1.state at same
    intro serving
    cases (same.trans closing).symm.trans serving
  · intro serving
    cases terminated.symm.trans serving

/-- What the sessions share once one of them has told its client that it aborts. -/
def Resources.aborted (resources : Resources) (channel : Channel.ServerEnd) : Resources :=
  { resources.setMemory (channel.abort resources.memory) with metrics := resources.metrics.protocolError }

/-- A turn that ends in a teardown, by the session behind its last response, what comes of it and what is
shared by then. -/
inductive Leaves (session : Session) (elapsed : Duration) (resources : Resources) :
    Session → Except Error Summary → Resources → Prop where
  | refused {link : Link} {cause : Violation} (held : session.link = some link)
      (refuses : Refuses link resources.memory cause) :
      Leaves session elapsed resources (session.counted.note (.published .aborted)) (.error (.violation cause))
        (resources.aborted link.channel)
  | closed {link : Link} (held : session.link = some link) (asks : Asks link resources.memory .close) :
      Leaves session elapsed resources (session.counted.note (.published .ok)) (.ok ⟨session.id, session.requests + 1⟩)
        (resources.concluded resources.backend
          (link.channel.publish (link.channel.response.write resources.memory []).2 .ok) .close .ok elapsed)
  | overflowed {link : Link} {request : Wire.Request} {outcome : Store.Outcome} {backend : Store.Backend}
      {context : Store.Context} {cause : Violation} {memory : Region.Memory}
      (held : session.link = some link) (asks : Asks link resources.memory request) (other : request ≠ .close)
      (handled : resources.backend.handle link.context request = (.finished outcome backend, context))
      (overflow : publish link.channel resources.memory outcome.status outcome.chunks = (.error cause, memory)) :
      Leaves session elapsed resources (session.counted.note (.published .aborted)) (.error (.violation cause))
        (Resources.aborted { resources.setMemory memory with backend } link.channel)

variable {elapsed : Duration}

theorem Leaves.holding (leaves : session.Leaves elapsed resources leaving result between) :
    leaving.holding = session.holding := by
  cases leaves with
  | refused | closed | overflowed => rfl

theorem Leaves.serve (leaves : session.Leaves elapsed resources leaving result between) :
    session.serve elapsed resources = leaving.teardown result between := by
  cases leaves with
  | refused held refuses => exact serve_refused held refuses elapsed
  | closed held asks => exact serve_closed held asks elapsed
  | overflowed held asks other handled overflow =>
    rw [serve_asked held asks other, handle_overflowed handled overflow]
    rfl

theorem Leaves.writes (leaves : session.Leaves elapsed resources leaving result between) :
    resources.Writes between := by
  cases leaves with
  | @refused link =>
    exact ⟨link.channel.abort resources.memory, link.channel.next_publish _ _, rfl⟩
  | closed =>
    refine ⟨_, ?_, rfl⟩
    exact (Channel.ServerEnd.next_publish _ _ _).trans (Region.Window.next_write _ _ _)
  | @overflowed link _ outcome _ _ _ memory _ _ _ _ overflow =>
    have next := next_publish link.channel resources.memory outcome.status outcome.chunks
    rw [overflow] at next
    exact ⟨link.channel.abort memory, (link.channel.next_publish _ _).trans next, rfl⟩

/-- What a turn comes to: the session goes on, or it ends in a teardown. -/
inductive Parts (session : Session) (elapsed : Duration) (resources : Resources) : Session × Resources → Prop where
  | goes {later : Session} {after : Resources} (writes : resources.Writes after)
      (holding : later.holding = session.holding) (state : later.state = session.state) :
      Parts session elapsed resources (later, after)
  | ends {leaving : Session} {result : Except Error Summary} {between : Resources}
      (leaves : session.Leaves elapsed resources leaving result between) :
      Parts session elapsed resources (leaving.teardown result between)

theorem serve_parts (session : Session) (elapsed : Duration) (resources : Resources) :
    session.Parts elapsed resources (session.serve elapsed resources) := by
  have turn := session.serve_turn elapsed resources
  generalize session.serve elapsed resources = outcome at turn
  cases turn with
  | idle | crashed => exact .goes ⟨resources.memory, rfl, rfl⟩ rfl rfl
  | refused held refuses => exact .ends (.refused held refuses)
  | closed held asks => exact .ends (.closed held asks)
  | @answered link _ outcome _ _ _ memory _ _ _ _ published =>
    have next := next_publish link.channel resources.memory outcome.status outcome.chunks
    rw [published] at next
    exact .goes ⟨memory, next, rfl⟩ rfl rfl
  | overflowed held asks other handled overflow => exact .ends (.overflowed held asks other handled overflow)

theorem serve_of_serving (served : session.serve elapsed resources = (later, after))
    (serving : later.state = .serving) : resources.Writes after ∧ later.holding = session.holding := by
  have parts := session.serve_parts elapsed resources
  rw [served] at parts
  generalize same : (later, after) = outcome at parts
  cases parts with
  | goes writes holding =>
    obtain ⟨rfl, rfl⟩ := Prod.mk.inj same
    exact ⟨writes, holding⟩
  | @ends leaving result between _ =>
    have stopped := leaving.teardown_state result between
    rw [← same] at stopped
    exact absurd serving stopped

end SharedRecords.Session
