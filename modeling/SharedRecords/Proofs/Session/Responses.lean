import SharedRecords.Proofs.Session.Journal
import SharedRecords.Proofs.Session.Parting
import SharedRecords.Proofs.Session.Publishing

/-!
The response flag behind a turn. What a session notes as published is what its client finds in the flag, and a
turn that publishes nothing leaves the flag as it was.
-/

namespace SharedRecords

open Region (Memory)

namespace Session

variable {session later leaving : Session} {resources between : Resources} {link : Link} {elapsed : Duration}
  {server : Channel.ServerEnd} {memory : Memory} {status told : Wire.Status} {message : Wire.Message}
  {result : Except Error Summary}

theorem publish_raised {published : Memory} (inside : server.response.index < memory.next)
    (spoken : publish server memory status message = (.ok told, published)) :
    published.flag server.response.index = told.byte := by
  have first := server.next_respond memory status message
  unfold publish at spoken
  rcases attempt : server.respond memory status message with ⟨_ | error, written⟩
  · rw [attempt] at spoken
    obtain ⟨same, rfl⟩ := Prod.mk.inj spoken
    obtain rfl := Except.ok.inj same
    exact Channel.ServerEnd.respond_raised inside attempt
  · rw [attempt] at spoken first
    dsimp only at spoken first
    split at spoken
    next again =>
      obtain ⟨same, rfl⟩ := Prod.mk.inj spoken
      obtain rfl := Except.ok.inj same
      exact Channel.ServerEnd.respond_raised (first ▸ inside) again
    next => nomatch (Prod.mk.inj spoken).1

/-! ## Where the flag is -/

def Mapped (session : Session) (memory : Memory) : Prop :=
  ∀ link, session.link = some link → link.channel.response.index < memory.next

theorem Mapped.of_le {wider : Memory} (mapped : session.Mapped memory) (next : memory.next ≤ wider.next) :
    session.Mapped wider :=
  fun link held => Nat.lt_of_lt_of_le (mapped link held) next

theorem Mapped.serve (mapped : session.Mapped resources.memory) (elapsed : Duration) :
    (session.serve elapsed resources).1.Mapped (session.serve elapsed resources).2.memory := by
  obtain ⟨steady, channel⟩ := session.serve_orderly elapsed resources
  intro link held
  obtain ⟨old, before, same⟩ := channel link held
  rw [same]
  exact Nat.lt_of_lt_of_le (mapped old before) steady.next

theorem start_mapped {id : SessionId} {holding : Holding} {options : Options} (sound : resources.pool.Sound)
    (began : start id holding options resources = (none, session, between)) : session.Mapped between.memory := by
  have steady := start_steady id holding options resources
  rw [began] at steady
  obtain ⟨linked, request, response, started⟩ := start_of_none began
  intro link held
  obtain rfl := Option.some.inj (started.held.symm.trans held)
  rw [started.told]
  exact Nat.lt_of_lt_of_le (Region.Pool.locate_inside sound started.locates_response) steady.next

/-! ## What is noted -/

def Event.status? : Event → Option Wire.Status
  | .published status => some status
  | .entered _ | .unmapped | .released _ | .contextClosed => none

def said? (session later : Session) : Option Wire.Status :=
  (later.journal.take (later.journal.length - session.journal.length)).findSome? Event.status?

theorem said?_of_noted {quiet : List Event} (noted : later.journal = quiet ++ .published status :: session.journal)
    (silent : ∀ event ∈ quiet, event.status? = none) : session.said? later = some status := by
  have length : (quiet ++ .published status :: session.journal).length - session.journal.length =
      quiet.length + 1 := by
    rw [List.length_append, List.length_cons]
    omega
  unfold said?
  rw [noted, length, List.take_append, List.take_of_length_le (Nat.le_succ _), Nat.add_sub_cancel_left,
    List.findSome?_append, List.findSome?_eq_none_iff.2 silent]
  rfl

theorem said?_of_published (published : later.journal = .published status :: session.journal) :
    session.said? later = some status :=
  @said?_of_noted session later status [] published nofun

theorem said?_of_same (same : later.journal = session.journal) : session.said? later = none := by
  unfold said?
  rw [same, Nat.sub_self]
  rfl

theorem closeContext_silent (session : Session) (result : Except Error Summary) (resources : Resources) :
    ∃ quiet, (session.closeContext result resources).1.journal = quiet ++ session.journal ∧
      ∀ event ∈ quiet, event.status? = none := by
  unfold closeContext
  cases resources.backend.closeContext with
  | crashed => exact ⟨[], rfl, nofun⟩
  | finished =>
    refine ⟨[.entered .terminated, .contextClosed], rfl, ?_⟩
    decide

theorem said?_teardown (noted : leaving.journal = .published status :: session.journal)
    (result : Except Error Summary) (resources : Resources) :
    session.said? (leaving.teardown result resources).1 = some status := by
  obtain ⟨handles, released⟩ := leaving.unmapped.releaseRegions_eq resources
  obtain ⟨closed, whole, still⟩ := closeContext_silent (leaving.unmapped.releaseRegions resources).1 result
    (leaving.unmapped.releaseRegions resources).2
  refine @said?_of_noted session _ status (closed ++ (handles.map .released ++ [.unmapped, .entered .closing])) ?_ ?_
  · refine whole.trans ?_
    rw [released, List.append_assoc, List.append_assoc, ← noted]
    rfl
  · refine List.forall_mem_append.2 ⟨still, List.forall_mem_append.2 ⟨List.forall_mem_map.2 fun _ _ => rfl, ?_⟩⟩
    decide

/-! ## What is noted is what is there -/

theorem Leaves.noted (leaves : session.Leaves elapsed resources leaving result between) :
    leaving.journal = .published (farewell result) :: session.journal := by
  cases leaves with
  | refused | closed | overflowed => rfl

theorem Leaves.raised (leaves : session.Leaves elapsed resources leaving result between)
    (held : session.link = some link) (inside : link.channel.response.index < resources.memory.next) :
    between.memory.flag link.channel.response.index = (farewell result).byte := by
  cases leaves with
  | refused same =>
    obtain rfl := Option.some.inj (same.symm.trans held)
    exact Channel.ServerEnd.flag_publish inside .aborted
  | closed same =>
    obtain rfl := Option.some.inj (same.symm.trans held)
    refine Channel.ServerEnd.flag_publish ?_ .ok
    rw [Region.Window.next_write]
    exact inside
  | @overflowed link _ outcome _ _ _ memory same _ _ _ overflow =>
    obtain rfl := Option.some.inj (same.symm.trans held)
    have next := next_publish link.channel resources.memory outcome.status outcome.chunks
    rw [overflow] at next
    refine Channel.ServerEnd.flag_publish ?_ .aborted
    show link.channel.response.index < memory.next
    rw [next]
    exact inside

theorem serve_tells (held : session.link = some link) (inside : link.channel.response.index < resources.memory.next)
    (elapsed : Duration) :
    (session.serve elapsed resources).2.memory.flag link.channel.response.index =
      (session.said? (session.serve elapsed resources).1).elim
        (resources.memory.flag link.channel.response.index) Wire.Status.byte := by
  have ends {leaving : Session} {result : Except Error Summary} {between : Resources}
      (leaves : session.Leaves elapsed resources leaving result between) :
      (leaving.teardown result between).2.memory.flag link.channel.response.index =
        (session.said? (leaving.teardown result between).1).elim
          (resources.memory.flag link.channel.response.index) Wire.Status.byte := by
    rw [said?_teardown leaves.noted, teardown_memory]
    exact leaves.raised held inside
  have turn := session.serve_turn elapsed resources
  generalize session.serve elapsed resources = outcome at turn
  cases turn with
  | idle =>
    dsimp only
    rw [said?_of_same rfl]
    rfl
  | crashed =>
    have silent : session.said? session.counted.crash = none := said?_of_same rfl
    dsimp only
    rw [silent]
    rfl
  | answered same asks other handled published =>
    obtain rfl := Option.some.inj (same.symm.trans held)
    rw [said?_of_published rfl]
    exact publish_raised inside published
  | refused same refuses => exact ends (.refused same refuses)
  | closed same asks => exact ends (.closed same asks)
  | overflowed same asks other handled overflow => exact ends (.overflowed same asks other handled overflow)

end Session

end SharedRecords
