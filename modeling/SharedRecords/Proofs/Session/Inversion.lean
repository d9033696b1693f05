import SharedRecords.Proofs.Manager.Serving
import SharedRecords.Proofs.Wire.Canonical

/-!
All that one turn of a session can come to. Nothing is pending, or what is pending makes no request, or it
makes one: to close, which is answered and ends the session, or one for the store, which may crash under it,
and whose answer is published or has no room.
-/

namespace SharedRecords

theorem Wire.Opcode.ofByte?_byte (opcode : Opcode) : ofByte? opcode.byte = some opcode := by
  cases opcode <;> rfl

theorem Wire.Opcode.byte_of_ofByte? {flag : UInt8} {opcode : Opcode} (known : ofByte? flag = some opcode) :
    flag = opcode.byte := by
  have same := List.find?_some known
  exact (beq_iff_eq.1 same).symm

namespace Session

variable {session : Session} {resources : Resources} {link : Link} {request : Wire.Request}
  {memory later : Region.Memory} {elapsed : Duration} {cause : Violation} {outcome : Store.Outcome}
  {backend : Store.Backend} {context : Store.Context} {told : Wire.Status}

def counted (session : Session) : Session := { session with requests := session.requests + 1 }

structure Asks (link : Link) (memory : Region.Memory) (request : Wire.Request) : Prop where
  raised : memory.flag link.channel.request.index = request.opcode.byte
  decoded : link.channel.decode memory (Wire.Request.reader request.opcode) = .ok request

inductive Refuses (link : Link) (memory : Region.Memory) : Violation → Prop where
  | unknown {flag : UInt8} (raised : memory.flag link.channel.request.index = flag)
      (pending : flag ≠ Wire.emptyFlag) (unknown : Wire.Opcode.ofByte? flag = none) :
      Refuses link memory (.unknownOpcode flag)
  | malformed {opcode : Wire.Opcode} {error : Wire.Error}
      (raised : memory.flag link.channel.request.index = opcode.byte)
      (malformed : link.channel.decode memory (Wire.Request.reader opcode) = .error error) :
      Refuses link memory (.malformed opcode error)

theorem pending?_of_raised {flag : UInt8} (held : session.link = some link)
    (raised : resources.memory.flag link.channel.request.index = flag) (pending : flag ≠ Wire.emptyFlag) :
    session.pending? resources = some (link, flag) := by
  unfold pending? Channel.ServerEnd.pending?
  rw [held]
  dsimp only
  rw [raised, if_neg pending]
  rfl

theorem link_of_pending? {flag : UInt8} (taken : session.pending? resources = some (link, flag)) :
    session.link = some link := by
  unfold pending? at taken
  split at taken
  · contradiction
  next held =>
    obtain ⟨_, _, same⟩ := Option.map_eq_some_iff.1 taken
    rw [held, (Prod.mk.inj same).1]

theorem serve_pending {flag : UInt8} (held : session.link = some link)
    (raised : resources.memory.flag link.channel.request.index = flag) (pending : flag ≠ Wire.emptyFlag)
    (elapsed : Duration) : session.serve elapsed resources = session.take link flag elapsed resources := by
  unfold serve
  rw [pending?_of_raised held raised pending]

theorem serve_refused (held : session.link = some link) (refuses : Refuses link resources.memory cause)
    (elapsed : Duration) :
    session.serve elapsed resources = session.counted.abort link.channel cause resources := by
  cases refuses with
  | unknown raised pending unknown =>
    rw [serve_pending held raised pending]
    unfold take
    rw [unknown]
    rfl
  | @malformed opcode error raised malformed =>
    rw [serve_pending held raised opcode.byte_ne_empty]
    unfold take
    rw [Wire.Opcode.ofByte?_byte]
    dsimp only
    rw [malformed]
    rfl

theorem serve_close (held : session.link = some link) (asks : Asks link resources.memory .close)
    (elapsed : Duration) :
    session.serve elapsed resources =
      session.counted.conclude link .close (.ok .empty) elapsed resources
        fun concluded resources =>
          concluded.teardown (.ok ⟨session.id, session.requests + 1⟩) resources := by
  rw [serve_pending held asks.raised Wire.Opcode.close.byte_ne_empty]
  unfold take
  rw [Wire.Opcode.ofByte?_byte]
  dsimp only
  rw [asks.decoded]
  rfl

theorem serve_asked (held : session.link = some link) (asks : Asks link resources.memory request)
    (other : request ≠ .close) (elapsed : Duration) :
    session.serve elapsed resources = session.counted.handle link request elapsed resources := by
  rw [serve_pending held asks.raised request.opcode.byte_ne_empty]
  unfold take
  rw [Wire.Opcode.ofByte?_byte]
  dsimp only
  rw [asks.decoded]
  cases request with
  | close => exact absurd rfl other
  | read | scan | insert | update | delete => rfl

theorem conclude_of_overflow {opcode : Wire.Opcode} {proceed : Session → Resources → Session × Resources}
    (overflow : publish link.channel resources.memory outcome.status outcome.chunks = (.error cause, later)) :
    session.conclude link opcode outcome elapsed resources proceed =
      session.abort link.channel cause (resources.setMemory later) := by
  unfold conclude
  rw [overflow]

theorem publish_empty (server : Channel.ServerEnd) (memory : Region.Memory) (status : Wire.Status) :
    publish server memory status [] =
      (.ok status, server.publish (server.response.write memory []).2 status) := by
  have whole := (server.response.write_failure_eq_none_iff memory []).2 (Nat.zero_le _)
  rcases attempt : server.response.write memory [] with ⟨_ | error, written⟩
  · unfold publish Channel.ServerEnd.respond
    rw [attempt]
  · rw [attempt] at whole
    contradiction

/-- What the manager's sessions share behind an answer. -/
def Resources.concluded (resources : Resources) (backend : Store.Backend) (memory : Region.Memory)
    (opcode : Wire.Opcode) (told : Wire.Status) (elapsed : Duration) : Resources where
  backend := backend
  pool := resources.pool.setMemory memory
  metrics := resources.metrics.record opcode told elapsed

theorem serve_closed (held : session.link = some link) (asks : Asks link resources.memory .close)
    (elapsed : Duration) :
    session.serve elapsed resources =
      (session.counted.note (.published .ok)).teardown (.ok ⟨session.id, session.requests + 1⟩)
        (resources.concluded resources.backend
          (link.channel.publish (link.channel.response.write resources.memory []).2 .ok) .close .ok elapsed) := by
  rw [serve_close held asks, conclude_of_published (publish_empty _ _ _)]
  rfl

theorem handle_answered (handled : resources.backend.handle link.context request = (.finished outcome backend, context))
    (published : publish link.channel resources.memory outcome.status outcome.chunks = (.ok told, later))
    (session : Session) (elapsed : Duration) :
    session.counted.handle link request elapsed resources =
      (session.answered link context told, resources.concluded backend later request.opcode told elapsed) := by
  let shared : Resources := { resources with backend }
  have answer : publish link.channel shared.memory outcome.status outcome.chunks = (.ok told, later) := published
  unfold handle
  rw [handled]
  exact conclude_of_published answer

theorem handle_overflowed
    (handled : resources.backend.handle link.context request = (.finished outcome backend, context))
    (overflow : publish link.channel resources.memory outcome.status outcome.chunks = (.error cause, later))
    (session : Session) (elapsed : Duration) :
    session.counted.handle link request elapsed resources =
      session.counted.abort link.channel cause { resources.setMemory later with backend } := by
  let shared : Resources := { resources with backend }
  have answer : publish link.channel shared.memory outcome.status outcome.chunks = (.error cause, later) := overflow
  unfold handle
  rw [handled]
  exact conclude_of_overflow answer

theorem handle_crashed (crashed : resources.backend.handle link.context request = (.crashed, context))
    (session : Session) (elapsed : Duration) :
    session.counted.handle link request elapsed resources = (session.counted.crash, resources) := by
  unfold handle
  rw [crashed]

/-- One turn, by what was pending and what came of it. -/
inductive Turn (session : Session) (elapsed : Duration) (resources : Resources) :
    Session × Resources → Prop where
  | idle (idle : session.Idle resources.memory) : Turn session elapsed resources (session, resources)
  | refused {link : Link} {cause : Violation} (held : session.link = some link)
      (refuses : Refuses link resources.memory cause) :
      Turn session elapsed resources (session.counted.abort link.channel cause resources)
  | closed {link : Link} (held : session.link = some link) (asks : Asks link resources.memory .close) :
      Turn session elapsed resources
        ((session.counted.note (.published .ok)).teardown (.ok ⟨session.id, session.requests + 1⟩)
          (resources.concluded resources.backend
            (link.channel.publish (link.channel.response.write resources.memory []).2 .ok) .close .ok elapsed))
  | crashed {link : Link} {request : Wire.Request} {context : Store.Context} (held : session.link = some link)
      (asks : Asks link resources.memory request) (other : request ≠ .close)
      (crashed : resources.backend.handle link.context request = (.crashed, context)) :
      Turn session elapsed resources (session.counted.crash, resources)
  | answered {link : Link} {request : Wire.Request} {outcome : Store.Outcome} {backend : Store.Backend}
      {context : Store.Context} {told : Wire.Status} {memory : Region.Memory}
      (held : session.link = some link) (asks : Asks link resources.memory request) (other : request ≠ .close)
      (handled : resources.backend.handle link.context request = (.finished outcome backend, context))
      (published : publish link.channel resources.memory outcome.status outcome.chunks = (.ok told, memory)) :
      Turn session elapsed resources
        (session.answered link context told,
          resources.concluded backend memory request.opcode told elapsed)
  | overflowed {link : Link} {request : Wire.Request} {outcome : Store.Outcome} {backend : Store.Backend}
      {context : Store.Context} {cause : Violation} {memory : Region.Memory}
      (held : session.link = some link) (asks : Asks link resources.memory request) (other : request ≠ .close)
      (handled : resources.backend.handle link.context request = (.finished outcome backend, context))
      (overflow : publish link.channel resources.memory outcome.status outcome.chunks = (.error cause, memory)) :
      Turn session elapsed resources
        (session.counted.abort link.channel cause { resources.setMemory memory with backend })

theorem Turn.of_asks (held : session.link = some link) (asks : Asks link resources.memory request)
    (elapsed : Duration) : session.Turn elapsed resources (session.serve elapsed resources) := by
  by_cases closing : request = .close
  · subst closing
    rw [serve_closed held asks]
    exact .closed held asks
  · rw [serve_asked held asks closing]
    rcases handled : resources.backend.handle link.context request with ⟨effect, context⟩
    cases effect with
    | crashed =>
      rw [handle_crashed handled]
      exact .crashed held asks closing handled
    | finished outcome backend =>
      rcases published : publish link.channel resources.memory (Store.Outcome.status outcome)
        (Store.Outcome.chunks outcome) with ⟨cause | told, later⟩
      · rw [handle_overflowed handled published]
        exact .overflowed held asks closing handled published
      · rw [handle_answered handled published]
        exact .answered held asks closing handled published

theorem serve_turn (session : Session) (elapsed : Duration) (resources : Resources) :
    session.Turn elapsed resources (session.serve elapsed resources) := by
  cases held : session.link with
  | none =>
    have idle : session.Idle resources.memory := fun link other => nomatch held.symm.trans other
    rw [serve_idle idle]
    exact .idle idle
  | some link =>
    by_cases lowered : resources.memory.flag link.channel.request.index = Wire.emptyFlag
    · have idle : session.Idle resources.memory := by
        intro other same
        rw [← Option.some.inj (held.symm.trans same)]
        exact lowered
      rw [serve_idle idle]
      exact .idle idle
    · cases known : Wire.Opcode.ofByte? (resources.memory.flag link.channel.request.index) with
      | none =>
        have refuses : Refuses link resources.memory _ := .unknown rfl lowered known
        rw [serve_refused held refuses]
        exact .refused held refuses
      | some opcode =>
        have raised := Wire.Opcode.byte_of_ofByte? known
        cases decoded : link.channel.decode resources.memory (Wire.Request.reader opcode) with
        | error error =>
          have refuses : Refuses link resources.memory _ := .malformed raised decoded
          rw [serve_refused held refuses]
          exact .refused held refuses
        | ok request =>
          -- a request that was read under an opcode is one of that opcode
          have same : request.opcode = opcode := by
            unfold Channel.ServerEnd.decode Wire.Reader.run at decoded
            exact (Wire.Exact.request (Prod.ext decoded rfl)).1
          subst same
          exact .of_asks held ⟨raised, decoded⟩ elapsed

theorem releaseRegions_backend (session : Session) (resources : Resources) :
    (session.releaseRegions resources).2.backend = resources.backend := by
  unfold releaseRegions
  dsimp only
  split
  · rfl
  · rfl

end Session

end SharedRecords
