import SharedRecords.Proofs.Region.Spots
import SharedRecords.Proofs.Session.Conversation

/-!
Turns over whatever a client has left in its regions. A request that can be read is carried out, and anything
else ends the session on the violation it is, with the tables as they were.
-/

namespace SharedRecords

namespace Store

variable {store : Store} {request : Wire.Request}

theorem settle_cases (store : Store) (result : Except Error Store) :
    (store.settle result).1 = .ok .empty ∨ (store.settle result).2 = store := by
  cases result with
  | ok changed => exact .inl rfl
  | error error => exact .inr rfl

theorem answer_of_chunks {room : Nat} (large : room < (store.answer request).1.chunks.size) :
    (store.answer request).2 = store := by
  have cases : (store.answer request).1 = .ok .empty ∨ (store.answer request).2 = store := by
    cases request with
    | read | scan | close => exact .inr rfl
    | insert | update | delete => exact settle_cases _ _
  refine cases.resolve_left fun empty => ?_
  rw [empty] at large
  exact Nat.not_lt_zero _ large

end Store

namespace Session

variable {session served : Session} {resources later : Resources} {link : Link} {request : Wire.Request}
  {cause other : Violation} {elapsed : Duration}

/-- The session has given up its channel on a violation. -/
structure EndedBy (session : Session) (cause : Violation) : Prop where
  unlinked : session.link = none
  result : session.result? = some (.error (.violation cause))

theorem EndedBy.unique (ended : session.EndedBy cause) (again : session.EndedBy other) : cause = other := by
  have same := ended.result.symm.trans again.result
  injection Option.some.inj same with same
  exact Error.violation.inj same

/-- What a client can do wrong: what is pending is no opcode, or no payload of its opcode, or it is a request
whose answer has no room where there is none for a count. -/
inductive Breach (link : Link) (resources : Resources) : Violation → Prop where
  | unknownOpcode {flag : UInt8} (raised : resources.memory.flag link.channel.request.index = flag)
      (pending : flag ≠ Wire.emptyFlag) (unknown : Wire.Opcode.ofByte? flag = none) :
      Breach link resources (.unknownOpcode flag)
  | malformed {opcode : Wire.Opcode} {error : Wire.Error}
      (raised : resources.memory.flag link.channel.request.index = opcode.byte)
      (malformed : link.channel.decode resources.memory (Wire.Request.reader opcode) = .error error) :
      Breach link resources (.malformed opcode error)
  | responseOverflow {request : Wire.Request} (asks : Asks link resources.memory request)
      (tight : link.channel.replyCapacity < Wire.wordLength)
      (large : link.channel.replyCapacity < (resources.backend.store.answer request).1.chunks.size) :
      Breach link resources (.responseOverflow link.channel.replyCapacity)

theorem Refuses.breach (refuses : Refuses link resources.memory cause) : Breach link resources cause := by
  cases refuses with
  | unknown raised pending unknown => exact .unknownOpcode raised pending unknown
  | malformed raised malformed => exact .malformed raised malformed

/-- The request that is pending is carried out, and what it came to is said. A request to close is answered
and ends the session; behind any other one the session serves on, with the request counted. -/
inductive Executes (session : Session) (link : Link) (elapsed : Duration) (resources : Resources) :
    Session × Resources → Prop where
  | closed {turn : Session × Resources} (asks : Asks link resources.memory .close)
      (published : link.channel.Published resources.memory turn.2.memory .ok [])
      (unlinked : turn.1.link = none) (result : turn.1.result? = some (.ok ⟨session.id, session.requests + 1⟩))
      (tables : turn.2.backend.store.tables = resources.backend.store.tables) :
      Executes session link elapsed resources turn
  | answered {request : Wire.Request} {told : Wire.Status} {said : Wire.Message} {memory : Region.Memory}
      (asks : Asks link resources.memory request) (other : request ≠ .close)
      (published : link.channel.Published resources.memory memory told said)
      (spoken : Says link.channel.replyCapacity (resources.backend.store.answer request).1.status
        (resources.backend.store.answer request).1.chunks told said) :
      Executes session link elapsed resources
        (session.answered link (link.context.count request.opcode) told,
          resources.concluded
            { resources.backend with store := (resources.backend.store.answer request).2 }
            memory request.opcode told elapsed)

theorem Executes.not_endedBy {turn : Session × Resources}
    (executes : session.Executes link elapsed resources turn) : ¬ turn.1.EndedBy cause := by
  intro ended
  cases executes with
  | closed asks published unlinked result tables =>
    have same := result.symm.trans ended.result
    injection Option.some.inj same
  | answered => nomatch ended.unlinked

theorem endedBy_abort (sane : resources.backend.faults .closeContext ≠ some .crashes) (session : Session)
    (channel : Channel.ServerEnd) (cause : Violation) :
    (session.abort channel cause resources).1.EndedBy cause where
  unlinked := abort_link session resources channel cause
  result := by
    let told := { resources.setMemory (channel.abort resources.memory) with
      metrics := resources.metrics.protocolError }
    have still : told.backend.faults .closeContext ≠ some .crashes := sane
    obtain ⟨finished, _⟩ :=
      (session.note (.published .aborted)).teardown_finished (.error (.violation cause)) still
    unfold abort result?
    rw [finished]
    rfl

/-- A violation aborts the session over the regions and the tables as they were: of the answer that had no
room, no more was written than bytes of the reply. -/
theorem serve_of_breach (held : session.link = some link) (faultless : ∀ entry, resources.backend.faults entry = none)
    (breach : Breach link resources cause) (elapsed : Duration) :
    ∃ shared : Resources, session.serve elapsed resources = session.counted.abort link.channel cause shared ∧
      shared.memory.next = resources.memory.next ∧
      (∀ index, shared.memory.flag index = resources.memory.flag index) ∧
      shared.backend = { resources.backend with store := shared.backend.store } ∧
      shared.backend.store.tables = resources.backend.store.tables := by
  have refused (refuses : Refuses link resources.memory cause) :=
    serve_refused held refuses elapsed
  cases breach with
  | unknownOpcode raised pending unknown =>
    exact ⟨resources, refused (.unknown raised pending unknown), rfl, fun _ => rfl, rfl, rfl⟩
  | malformed raised malformed =>
    exact ⟨resources, refused (.malformed raised malformed), rfl, fun _ => rfl, rfl, rfl⟩
  | @responseOverflow request asks tight large =>
    have other : request ≠ .close := by
      rintro rfl
      exact Nat.not_lt_zero _ large
    obtain ⟨later, overflow, next, flags⟩ :
        ∃ later, publish link.channel resources.memory _ _ = (.error _, later) ∧ _ :=
      publish_overflows tight large (resources.backend.store.answer request).1.status
    have handled : resources.backend.handle link.context request = _ :=
      Store.Backend.handle_of_no_fault (faultless (.serve request.opcode))
    rw [serve_asked held asks other, handle_overflowed handled overflow]
    exact ⟨_, rfl, next, flags, rfl, congrArg Store.tables (Store.answer_of_chunks large)⟩

theorem asks_or_refuses (held : session.link = some link)
    (pending : resources.memory.flag link.channel.request.index ≠ Wire.emptyFlag) :
    (∃ request, Asks link resources.memory request) ∨ ∃ cause, Refuses link resources.memory cause := by
  have turn := session.serve_turn .zero resources
  generalize session.serve .zero resources = result at turn
  have same {other : Link} (linked : session.link = some other) : link = other :=
    Option.some.inj (held.symm.trans linked)
  cases turn with
  | idle idle => exact absurd (idle link held) pending
  | refused linked refuses => exact .inr ⟨_, same linked ▸ refuses⟩
  | closed linked asks => exact .inl ⟨_, same linked ▸ asks⟩
  | crashed linked asks => exact .inl ⟨_, same linked ▸ asks⟩
  | answered linked asks => exact .inl ⟨_, same linked ▸ asks⟩
  | overflowed linked asks => exact .inl ⟨_, same linked ▸ asks⟩

theorem executes_close (held : session.link = some link) (spans : link.channel.Spans resources.memory)
    (faultless : ∀ entry, resources.backend.faults entry = none) (asks : Asks link resources.memory .close)
    (elapsed : Duration) :
    session.Executes link elapsed resources (session.serve elapsed resources) := by
  have fits : Wire.Message.size [] ≤ link.channel.replyCapacity := Nat.zero_le _
  obtain ⟨later, said, published⟩ := publish_fits spans fits .ok
  obtain rfl : later = link.channel.publish (link.channel.response.write resources.memory []).2 .ok :=
    (congrArg Prod.snd (said.symm.trans (publish_empty _ _ _)))
  let concluded := resources.concluded resources.backend
    (link.channel.publish (link.channel.response.write resources.memory []).2 .ok) .close .ok elapsed
  have sane : concluded.backend.faults .closeContext ≠ some .crashes := by
    rw [show concluded.backend.faults .closeContext = none from faultless _]
    nofun
  obtain ⟨finished, _⟩ := (session.counted.note (.published .ok)).teardown_finished
    (.ok ⟨session.id, session.requests + 1⟩) sane
  obtain ⟨closed, backend⟩ := (session.counted.note (.published .ok)).teardown_backend
    (.ok ⟨session.id, session.requests + 1⟩) concluded
  rw [serve_closed held asks]
  refine .closed asks ?_ (teardown_link _ _ _) ?_ ?_
  · rw [teardown_memory]
    exact published
  · unfold result?
    rw [finished]
    rfl
  · rw [backend]
    rfl

theorem executes_or_breach (held : session.link = some link) (spans : link.channel.Spans resources.memory)
    (faultless : ∀ entry, resources.backend.faults entry = none)
    (pending : resources.memory.flag link.channel.request.index ≠ Wire.emptyFlag) (elapsed : Duration) :
    session.Executes link elapsed resources (session.serve elapsed resources) ∨
      ∃ cause, Breach link resources cause := by
  obtain ⟨request, asks⟩ | ⟨cause, refuses⟩ := asks_or_refuses held pending
  · by_cases closing : request = .close
    · subst closing
      exact .inl (executes_close held spans faultless asks elapsed)
    · have handled : resources.backend.handle link.context request = _ :=
        Store.Backend.handle_of_no_fault (faultless (.serve request.opcode))
      have responds := serve_responds resources held spans asks closing handled elapsed
      generalize session.serve elapsed resources = turn at responds
      cases responds with
      | answered published spoken => exact .inl (.answered asks closing published spoken)
      | gaveUp tight large => exact .inr ⟨_, .responseOverflow asks tight large⟩
  · exact .inr ⟨cause, refuses.breach⟩

/-- What a turn comes to that finds something pending. -/
structure Contained (session : Session) (link : Link) (elapsed : Duration) (resources : Resources)
    (turn : Session × Resources) : Prop where
  /-- The one request is carried out, or the session ends on a violation, and not both. -/
  outcome : (session.Executes link elapsed resources turn ∧ ∀ cause, ¬ turn.1.EndedBy cause) ∨
    (¬ session.Executes link elapsed resources turn ∧ ∃ cause, turn.1.EndedBy cause)
  cause : ∀ cause, turn.1.EndedBy cause ↔ Breach link resources cause
  aborted : ∀ cause, turn.1.EndedBy cause →
    link.channel.Published resources.memory turn.2.memory .aborted [] ∧
      turn.2.backend.store.tables = resources.backend.store.tables

theorem serve_contained (held : session.link = some link) (spans : link.channel.Spans resources.memory)
    (faultless : ∀ entry, resources.backend.faults entry = none)
    (pending : resources.memory.flag link.channel.request.index ≠ Wire.emptyFlag) (elapsed : Duration) :
    session.Contained link elapsed resources (session.serve elapsed resources) := by
  have ends {cause : Violation} (breach : Breach link resources cause) :
      (session.serve elapsed resources).1.EndedBy cause := by
    obtain ⟨shared, aborts, _, _, backend, _⟩ := serve_of_breach held faultless breach elapsed
    rw [aborts]
    refine endedBy_abort ?_ _ _ _
    rw [backend, show resources.backend.faults .closeContext = none from faultless _]
    nofun
  have breaches {cause : Violation} (ended : (session.serve elapsed resources).1.EndedBy cause) :
      Breach link resources cause := by
    obtain executes | ⟨other, breach⟩ := executes_or_breach held spans faultless pending elapsed
    · exact absurd ended executes.not_endedBy
    · obtain rfl := ended.unique (ends breach)
      exact breach
  constructor
  · obtain executes | ⟨cause, breach⟩ := executes_or_breach held spans faultless pending elapsed
    · exact .inl ⟨executes, fun _ => executes.not_endedBy⟩
    · exact .inr ⟨fun executes => executes.not_endedBy (ends breach), cause, ends breach⟩
  · exact fun cause => ⟨breaches, ends⟩
  · intro cause ended
    obtain ⟨shared, aborts, next, flags, _, tables⟩ := serve_of_breach held faultless (breaches ended) elapsed
    rw [aborts]
    exact ⟨session.counted.abort_published spans cause next flags, (abort_tables _ _ _ _).trans tables⟩

/-! ## Regions of others -/

def GivesBack (session : Session) (pool : Region.Pool) (spot : Region.Spot) : Prop :=
  session.holding.owned = true ∧
    (pool.spot? session.holding.request = some spot ∨ pool.spot? session.holding.response = some spot)

variable {handle : Region.Handle} {spot : Region.Spot}

theorem teardown_pool (session : Session) (result : Except Error Summary) (resources : Resources) :
    (session.teardown result resources).2.pool =
      if session.holding.owned then
        ((resources.pool.release session.holding.request).2.release session.holding.response).2
      else resources.pool := by
  have closed (session : Session) (resources : Resources) :
      (session.closeContext result resources).2.pool = resources.pool := by
    unfold closeContext
    cases resources.backend.closeContext with
    | crashed => rfl
    | finished _ backend => rfl
  unfold teardown
  dsimp only
  rw [closed]
  unfold releaseRegions
  dsimp only [enter, note]
  split
  · rfl
  · rfl

theorem teardown_locate (session : Session) (result : Except Error Summary)
    (found : resources.pool.spot? handle = some spot) (stays : ¬ session.GivesBack resources.pool spot) :
    (session.teardown result resources).2.pool.locate handle = resources.pool.locate handle := by
  rw [teardown_pool]
  by_cases owned : session.holding.owned = true
  · have request : resources.pool.spot? session.holding.request ≠ some spot :=
      fun same => stays ⟨owned, .inl same⟩
    have response : (resources.pool.release session.holding.request).2.spot? session.holding.response ≠ some spot :=
      fun same => stays ⟨owned, .inr (Region.Pool.spot?_of_release same)⟩
    rw [if_pos owned, Region.Pool.locate_release (Region.Pool.spot?_release found request) response,
      Region.Pool.locate_release found request]
  · rw [if_neg owned]

theorem serve_locate (found : resources.pool.spot? handle = some spot)
    (stays : ¬ session.GivesBack resources.pool spot) (elapsed : Duration) :
    (session.serve elapsed resources).2.pool.locate handle = resources.pool.locate handle := by
  have turn := session.serve_turn elapsed resources
  generalize session.serve elapsed resources = result at turn
  cases turn with
  | idle => rfl
  | crashed => rfl
  | answered => rfl
  | refused =>
    unfold abort
    exact teardown_locate _ _ found stays
  | closed => exact teardown_locate _ _ found stays
  | overflowed =>
    unfold abort
    exact teardown_locate _ _ found stays

end Session

end SharedRecords
