import SharedRecords.Manager.Basic
import SharedRecords.Proofs.Session.Publishing
import SharedRecords.Wire.Request

/-!
Turns of a manager in which one session acts. A session without a pending request lets its turn pass,
so serving until nothing is pending comes to the one turn of the session that has one.
-/

namespace SharedRecords

namespace Session

variable {session : Session} {resources : Resources}

def Idle (session : Session) (memory : Region.Memory) : Prop :=
  ∀ link, session.link = some link → memory.flag link.channel.request.index = Wire.emptyFlag

theorem pending?_eq_none_iff : session.pending? resources = none ↔ session.Idle resources.memory := by
  unfold pending? Idle
  cases held : session.link with
  | none => exact ⟨fun _ _ => nofun, fun _ => rfl⟩
  | some link =>
    unfold Channel.ServerEnd.pending?
    dsimp only
    by_cases lowered : resources.memory.flag link.channel.request.index = Wire.emptyFlag
    · rw [if_pos lowered]
      refine ⟨?_, fun _ => rfl⟩
      intro _ other same
      rw [← Option.some.inj same]
      exact lowered
    · rw [if_neg lowered]
      refine ⟨nofun, ?_⟩
      intro idle
      exact absurd (idle link rfl) lowered

theorem serve_idle (idle : session.Idle resources.memory) (elapsed : Duration) :
    session.serve elapsed resources = (session, resources) := by
  unfold serve
  rw [pending?_eq_none_iff.2 idle]

theorem conclude_of_published {link : Link} {opcode : Wire.Opcode} {outcome : Store.Outcome}
    {told : Wire.Status} {later : Region.Memory} {elapsed : Duration}
    {proceed : Session → Resources → Session × Resources}
    (published : publish link.channel resources.memory outcome.status outcome.chunks = (.ok told, later)) :
    session.conclude link opcode outcome elapsed resources proceed =
      proceed (session.note (.published told))
        { resources.setMemory later with metrics := resources.metrics.record opcode told elapsed } := by
  unfold conclude
  rw [published]

def answered (session : Session) (link : Link) (context : Store.Context) (told : Wire.Status) : Session :=
  { ({ session with requests := session.requests + 1 }).note (.published told) with
    link := some { link with context } }

theorem serve_request (resources : Resources) {link : Link} {request : Wire.Request} (held : session.link = some link)
    (spans : link.channel.Spans resources.memory) (roomy : Wire.wordLength ≤ link.channel.replyCapacity)
    (raised : resources.memory.flag link.channel.request.index = request.opcode.byte)
    (decoded : link.channel.decode resources.memory (Wire.Request.reader request.opcode) = .ok request)
    (other : request ≠ .close) (sound : resources.backend.faults (.serve request.opcode) = none)
    (elapsed : Duration) :
    ∃ told said later,
      session.serve elapsed resources =
        (session.answered link (resources.backend.store.handle link.context request).2.1 told,
          { backend := { resources.backend with
              store := (resources.backend.store.handle link.context request).2.2 }
            pool := resources.pool.setMemory later
            metrics := resources.metrics.record request.opcode told elapsed }) ∧
      link.channel.Published resources.memory later told said ∧
      Says link.channel.replyCapacity (resources.backend.store.handle link.context request).1.status
        (resources.backend.store.handle link.context request).1.chunks told said := by
  have pending : session.pending? resources = some (link, request.opcode.byte) := by
    unfold pending? Channel.ServerEnd.pending?
    rw [held]
    dsimp only
    rw [raised, if_neg request.opcode.byte_ne_empty]
    rfl
  have known : Wire.Opcode.ofByte? request.opcode.byte = some request.opcode := by
    cases request.opcode <;> rfl
  have taken : session.serve elapsed resources =
      ({ session with requests := session.requests + 1 }).handle link request elapsed resources := by
    unfold serve
    rw [pending]
    dsimp only
    unfold take
    rw [known]
    dsimp only
    rw [decoded]
    cases request with
    | close => exact absurd rfl other
    | read | scan | insert | update | delete => rfl
  obtain ⟨told, said, later, published, leaves, spoken⟩ := publish_says spans roomy
    (resources.backend.store.handle link.context request).1.status
    (resources.backend.store.handle link.context request).1.chunks
  refine ⟨told, said, later, ?_, leaves, spoken⟩
  rw [taken, handle, Store.Backend.handle_of_no_fault sound]
  exact conclude_of_published published

end Session

namespace Manager

open Session (Resources)

variable {session : Session} {front back sessions : List Session} {resources : Resources}

theorem serveEach_idle (idle : ∀ other ∈ sessions, other.Idle resources.memory) :
    serveEach resources sessions = (sessions, resources) := by
  induction sessions with
  | nil => rfl
  | cons first rest ih =>
    have quiet := ih fun other member => idle other (List.mem_cons_of_mem _ member)
    unfold serveEach
    rw [Session.serve_idle (idle first List.mem_cons_self)]
    dsimp only
    rw [quiet]

theorem serveEach_single (before : ∀ other ∈ front, other.Idle resources.memory)
    (behind : ∀ other ∈ back, other.Idle (session.serve .zero resources).2.memory) :
    serveEach resources (front ++ session :: back) =
      (front ++ (session.serve .zero resources).1 :: back, (session.serve .zero resources).2) := by
  induction front with
  | nil =>
    rw [List.nil_append, List.nil_append, serveEach]
    dsimp only
    rw [serveEach_idle behind]
  | cons first rest ih =>
    have others := ih fun other member => before other (List.mem_cons_of_mem _ member)
    rw [List.cons_append, List.cons_append, serveEach,
      Session.serve_idle (before first List.mem_cons_self)]
    dsimp only
    rw [others]

variable {manager : Manager}

theorem isPending_eq_false (idle : ∀ other ∈ manager.sessions, other.Idle manager.memory) :
    manager.isPending = false := by
  unfold isPending
  rw [List.any_eq_false]
  intro other member
  rw [Session.pending?_eq_none_iff.2 (idle other member)]
  nofun

theorem settle_single (enrolled : manager.sessions = front ++ session :: back)
    (pending : session.pending? manager.resources ≠ none)
    (before : ∀ other ∈ front ++ back, other.Idle manager.memory)
    (after : ∀ other ∈ front ++ back, other.Idle (session.serve .zero manager.resources).2.memory)
    (served : (session.serve .zero manager.resources).1.Idle (session.serve .zero manager.resources).2.memory) :
    manager.settle = { manager with
      sessions := front ++ (session.serve .zero manager.resources).1 :: back
      resources := (session.serve .zero manager.resources).2 } := by
  have first : manager.isPending = true := by
    unfold isPending
    rw [List.any_eq_true, enrolled]
    exact ⟨session, List.mem_append_right _ List.mem_cons_self, Option.isSome_iff_ne_none.2 pending⟩
  have round : manager.serveRound = { manager with
      sessions := front ++ (session.serve .zero manager.resources).1 :: back
      resources := (session.serve .zero manager.resources).2 } := by
    unfold serveRound
    rw [enrolled, serveEach_single]
    · intro other member
      exact before other (List.mem_append_left _ member)
    · intro other member
      exact after other (List.mem_append_right _ member)
  have second : manager.serveRound.isPending = false := by
    apply isPending_eq_false
    rw [round]
    intro other member
    rcases List.mem_append.1 member with ahead | rest
    · exact after other (List.mem_append_left _ ahead)
    · rcases List.mem_cons.1 rest with same | behind
      · rw [same]
        exact served
      · exact after other (List.mem_append_right _ behind)
  unfold settle settleWithin
  rw [if_pos first]
  unfold settleWithin
  rw [if_neg (Bool.not_eq_true _ ▸ second), round]

end Manager

end SharedRecords
