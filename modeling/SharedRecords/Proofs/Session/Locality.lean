import SharedRecords.Proofs.Session.Exchange
import SharedRecords.Proofs.Store.Footprint

/-!
What a turn of a session depends on and what it changes. It depends on the cells of its own channel, on the
records that its request touches and on the plan of faults, and it changes none but its own cells and the
record that its request writes.
-/

namespace SharedRecords

/-! ## Memory -/

namespace Region.Memory

/-- The memories have as many cells, and the same content in those that are one's own. -/
structure SameAt (own : Nat → Prop) (first second : Memory) : Prop where
  next : first.next = second.next
  cells : ∀ index, own index → first.cell index = second.cell index

namespace SameAt

variable {own : Nat → Prop} {first second third : Memory} {window : Window}

theorem refl (own : Nat → Prop) (memory : Memory) : SameAt own memory memory := ⟨rfl, fun _ _ => rfl⟩

theorem symm (same : SameAt own first second) : SameAt own second first :=
  ⟨same.next.symm, fun index owned => (same.cells index owned).symm⟩

theorem trans (one : SameAt own first second) (other : SameAt own second third) : SameAt own first third :=
  ⟨one.next.trans other.next, fun index owned => (one.cells index owned).trans (other.cells index owned)⟩

theorem change (same : SameAt own first second) (index : Nat) (edit : Cell → Cell) :
    SameAt own (first.change index edit) (second.change index edit) where
  next := by rw [next_change, next_change, same.next]
  cells other owned := by
    by_cases here : index = other
    · subst here
      by_cases inside : index < first.next
      · rw [cell_change inside, cell_change (same.next ▸ inside), same.cells index owned]
      · have outside := Nat.not_lt.mp inside
        rw [change_of_le outside, change_of_le (same.next ▸ outside), same.cells index owned]
    · rw [cell_change_of_ne here, cell_change_of_ne here, same.cells other owned]

theorem write (same : SameAt own first second) (owned : own window.index) (message : Wire.Message) :
    (window.write first message).1 = (window.write second message).1 ∧
      SameAt own (window.write first message).2 (window.write second message).2 := by
  unfold Window.write
  rw [same.cells _ owned]
  exact ⟨rfl, same.change _ _⟩

theorem payload (same : SameAt own first second) (owned : own window.index) :
    window.payload first = window.payload second := by
  rw [Window.payload, Window.payload, same.cells _ owned]

theorem flag (same : SameAt own first second) {index : Nat} (owned : own index) :
    first.flag index = second.flag index := by
  rw [Memory.flag, Memory.flag, same.cells _ owned]

theorem publish (same : SameAt own first second) (server : Channel.ServerEnd) (status : Wire.Status) :
    SameAt own (server.publish first status) (server.publish second status) :=
  (same.change _ _).change _ _

theorem respond (same : SameAt own first second) (server : Channel.ServerEnd)
    (owned : own server.response.index) (status : Wire.Status) (message : Wire.Message) :
    (server.respond first status message).1 = (server.respond second status message).1 ∧
      SameAt own (server.respond first status message).2 (server.respond second status message).2 := by
  obtain ⟨failure, written⟩ := same.write owned message
  unfold Channel.ServerEnd.respond
  generalize server.response.write first message = one at failure written
  generalize server.response.write second message = other at failure written
  obtain ⟨_ | error, _⟩ := one
  · obtain ⟨_, _⟩ := other
    obtain rfl := failure
    exact ⟨rfl, written.publish server status⟩
  · obtain ⟨_, _⟩ := other
    obtain rfl := failure
    exact ⟨rfl, written⟩

theorem publishes (same : SameAt own first second) (server : Channel.ServerEnd)
    (owned : own server.response.index) (status : Wire.Status) (message : Wire.Message) :
    (Session.publish server first status message).1 = (Session.publish server second status message).1 ∧
      SameAt own (Session.publish server first status message).2
        (Session.publish server second status message).2 := by
  obtain ⟨failure, written⟩ := same.respond server owned status message
  unfold Session.publish
  generalize server.respond first status message = one at failure written
  generalize server.respond second status message = other at failure written
  obtain ⟨_ | error, between⟩ := one
  · obtain ⟨_, _⟩ := other
    obtain rfl := failure
    exact ⟨rfl, written⟩
  · obtain ⟨_, meanwhile⟩ := other
    obtain rfl := failure
    obtain ⟨again, last⟩ := written.respond server owned .failed
      [.text (Session.overflowNote status error server.replyCapacity)]
    dsimp only at again last ⊢
    generalize server.respond between .failed _ = one at again last
    generalize server.respond meanwhile .failed _ = other at again last
    obtain ⟨_ | error, _⟩ := one
    · obtain ⟨_, _⟩ := other
      obtain rfl := again
      exact ⟨rfl, last⟩
    · obtain ⟨_, _⟩ := other
      obtain rfl := again
      exact ⟨rfl, last⟩

end SameAt

end Region.Memory

/-! ## What sessions share -/

namespace Session

/-- To a party with these cells that sees these records, the resources are the same. -/
structure Resources.SameFor (own : Nat → Prop) (seen : String → String → Prop) (first second : Resources) :
    Prop where
  faults : first.backend.faults = second.backend.faults
  store : first.backend.store.SameOn seen second.backend.store
  memory : first.memory.SameAt own second.memory

namespace Resources.SameFor

variable {own : Nat → Prop} {seen : String → String → Prop} {first second third : Resources}
  {outcome : Store.Outcome} {backend : Store.Backend} {context counted : Store.Context}
  {request : Wire.Request}

theorem refl (own : Nat → Prop) (seen : String → String → Prop) (resources : Resources) :
    SameFor own seen resources resources := ⟨rfl, .refl _ _, .refl _ _⟩

theorem symm (same : SameFor own seen first second) : SameFor own seen second first :=
  ⟨same.faults.symm, same.store.symm, same.memory.symm⟩

theorem trans (one : SameFor own seen first second) (other : SameFor own seen second third) :
    SameFor own seen first third :=
  ⟨one.faults.trans other.faults, one.store.trans other.store, one.memory.trans other.memory⟩

theorem setMemory (same : SameFor own seen first second) {one other : Region.Memory}
    (memory : one.SameAt own other) : SameFor own seen (first.setMemory one) (second.setMemory other) :=
  ⟨same.faults, same.store, memory⟩

theorem handle (same : SameFor own seen first second) (context : Store.Context)
    (sees : ∀ name key, request.Touches name key → seen name key) :
    (∃ counted, first.backend.handle context request = (.crashed, counted) ∧
        second.backend.handle context request = (.crashed, counted)) ∨
      ∃ outcome counted one other, first.backend.handle context request = (.finished outcome one, counted) ∧
        second.backend.handle context request = (.finished outcome other, counted) ∧
        one.faults = other.faults ∧ one.store.SameOn seen other.store := by
  obtain ⟨answered, later⟩ := same.store.answer request sees
  unfold Store.Backend.handle Store.handle
  rw [same.faults]
  dsimp only
  rw [answered]
  split
  · exact .inr ⟨_, _, _, _, rfl, rfl, same.faults, same.store⟩
  · exact .inl ⟨_, rfl, rfl⟩
  · exact .inr ⟨_, _, _, _, rfl, rfl, rfl, later⟩

theorem closeContext (same : SameFor own seen first second) (session : Session) (result : Except Error Summary) :
    (session.closeContext result first).1 = (session.closeContext result second).1 ∧
      SameFor own seen (session.closeContext result first).2 (session.closeContext result second).2 := by
  unfold Session.closeContext Store.Backend.closeContext Store.Backend.guarded
  rw [same.faults]
  cases second.backend.faults .closeContext with
  | none =>
    have left : Store.SameOn seen first.backend.store.closeContext first.backend.store := .of_tables rfl
    have right : Store.SameOn seen second.backend.store second.backend.store.closeContext := .of_tables rfl
    exact ⟨rfl, rfl, left.trans (same.store.trans right), same.memory⟩
  | some fault =>
    cases fault with
    | fails error => exact ⟨rfl, same.faults, same.store, same.memory⟩
    | crashes => exact ⟨rfl, same⟩

theorem releaseRegions (same : SameFor own seen first second) (session : Session) :
    (session.releaseRegions first).1 = (session.releaseRegions second).1 ∧
      SameFor own seen (session.releaseRegions first).2 (session.releaseRegions second).2 := by
  refine ⟨?_, ?_⟩
  · unfold Session.releaseRegions
    dsimp only
    split
    · rfl
    · rfl
  · constructor
    · rw [releaseRegions_backend, releaseRegions_backend, same.faults]
    · rw [releaseRegions_backend, releaseRegions_backend]
      exact same.store
    · rw [releaseRegions_memory, releaseRegions_memory]
      exact same.memory

theorem teardown (same : SameFor own seen first second) (session : Session) (result : Except Error Summary) :
    (session.teardown result first).1 = (session.teardown result second).1 ∧
      SameFor own seen (session.teardown result first).2 (session.teardown result second).2 := by
  unfold Session.teardown
  dsimp only
  obtain ⟨alike, shared⟩ := same.releaseRegions { (session.enter .closing).note .unmapped with link := none }
  rw [alike]
  exact shared.closeContext _ result

theorem abort (same : SameFor own seen first second) (session : Session) (channel : Channel.ServerEnd)
    (cause : Violation) :
    (session.abort channel cause first).1 = (session.abort channel cause second).1 ∧
      SameFor own seen (session.abort channel cause first).2 (session.abort channel cause second).2 := by
  unfold Session.abort
  have told : SameFor own seen
      { first.setMemory (channel.abort first.memory) with metrics := first.metrics.protocolError }
      { second.setMemory (channel.abort second.memory) with metrics := second.metrics.protocolError } :=
    ⟨same.faults, same.store, same.memory.publish channel .aborted⟩
  exact told.teardown _ _

end Resources.SameFor

/-! ## Turns -/

variable {own : Nat → Prop} {seen : String → String → Prop} {first second : Resources} {session : Session}
  {link : Link} {request : Wire.Request} {cause : Violation}

theorem Asks.of_same {one other : Region.Memory} (asks : Asks link one request) (same : one.SameAt own other)
    (owned : own link.channel.request.index) : Asks link other request where
  raised := (same.flag owned).symm.trans asks.raised
  decoded := by
    rw [← asks.decoded, Channel.ServerEnd.decode, Channel.ServerEnd.decode, same.payload owned]

theorem Refuses.of_same {one other : Region.Memory} (refuses : Refuses link one cause)
    (same : one.SameAt own other) (owned : own link.channel.request.index) : Refuses link other cause := by
  cases refuses with
  | unknown raised pending unknown =>
    exact .unknown ((same.flag owned).symm.trans raised) pending unknown
  | malformed raised malformed =>
    refine .malformed ((same.flag owned).symm.trans raised) ?_
    rw [← malformed, Channel.ServerEnd.decode, Channel.ServerEnd.decode, same.payload owned]

def Owns (session : Session) (own : Nat → Prop) : Prop :=
  ∀ link, session.link = some link → own link.channel.request.index ∧ own link.channel.response.index

def Sees (session : Session) (memory : Region.Memory) (seen : String → String → Prop) : Prop :=
  ∀ link request, session.link = some link → Asks link memory request →
    ∀ name key, request.Touches name key → seen name key

/-- Where the resources are the same for a session, it does the same in its turn, and they stay the same
for it. -/
theorem serve_same (same : first.SameFor own seen second) (owns : session.Owns own)
    (sees : session.Sees first.memory seen) (elapsed : Duration) :
    (session.serve elapsed first).1 = (session.serve elapsed second).1 ∧
      (session.serve elapsed first).2.SameFor own seen (session.serve elapsed second).2 := by
  have turn := session.serve_turn elapsed first
  generalize session.serve elapsed first = result at turn
  cases turn with
  | idle idle =>
    have idle : session.Idle second.memory := fun link held =>
      (same.memory.flag (owns link held).1).symm.trans (idle link held)
    rw [serve_idle idle]
    exact ⟨rfl, same⟩
  | refused held refuses =>
    rw [serve_refused held (refuses.of_same same.memory (owns _ held).1)]
    exact same.abort _ _ _
  | @closed link held asks =>
    rw [serve_closed held (asks.of_same same.memory (owns _ held).1)]
    have told := ((same.memory.write (owns _ held).2 []).2).publish link.channel .ok
    have shared : Resources.SameFor own seen
        (first.concluded first.backend
          (link.channel.publish (link.channel.response.write first.memory []).2 .ok) .close .ok elapsed)
        (second.concluded second.backend
          (link.channel.publish (link.channel.response.write second.memory []).2 .ok) .close .ok elapsed) :=
      ⟨same.faults, same.store, told⟩
    exact shared.teardown _ _
  | crashed held asks other crashed =>
    rw [serve_asked held (asks.of_same same.memory (owns _ held).1) other]
    obtain ⟨_, one, another⟩ | ⟨_, _, _, _, one, _⟩ := same.handle _ (sees _ _ held asks)
    · obtain rfl := congrArg Prod.snd (crashed.symm.trans one)
      rw [handle_crashed another]
      exact ⟨rfl, same⟩
    · cases congrArg Prod.fst (crashed.symm.trans one)
  | @answered link request outcome backend context told memory held asks other handled published =>
    rw [serve_asked held (asks.of_same same.memory (owns _ held).1) other]
    obtain ⟨_, one, _⟩ | ⟨_, _, _, another, one, answered, faults, store⟩ :=
      same.handle link.context (sees _ _ held asks)
    · cases congrArg Prod.fst (handled.symm.trans one)
    · obtain ⟨finished, rfl⟩ := Prod.mk.inj (handled.symm.trans one)
      obtain ⟨rfl, rfl⟩ := Store.Backend.Effect.finished.inj finished
      obtain ⟨alike, later⟩ := same.memory.publishes link.channel (owns _ held).2 outcome.status outcome.chunks
      rcases publishes : publish link.channel second.memory outcome.status outcome.chunks with ⟨result, last⟩
      rw [published, publishes] at alike later
      obtain rfl := alike
      rw [handle_answered answered publishes]
      exact ⟨rfl, faults, store, later⟩
  | @overflowed link request outcome backend context cause memory held asks other handled overflow =>
    rw [serve_asked held (asks.of_same same.memory (owns _ held).1) other]
    obtain ⟨_, one, _⟩ | ⟨_, _, _, another, one, answered, faults, store⟩ :=
      same.handle link.context (sees _ _ held asks)
    · cases congrArg Prod.fst (handled.symm.trans one)
    · obtain ⟨finished, rfl⟩ := Prod.mk.inj (handled.symm.trans one)
      obtain ⟨rfl, rfl⟩ := Store.Backend.Effect.finished.inj finished
      obtain ⟨alike, later⟩ := same.memory.publishes link.channel (owns _ held).2 outcome.status outcome.chunks
      rcases overflows : publish link.channel second.memory outcome.status outcome.chunks with ⟨result, last⟩
      rw [overflow, overflows] at alike later
      obtain rfl := alike
      rw [handle_overflowed answered overflows]
      have shared : Resources.SameFor own seen { first.setMemory memory with backend }
          { second.setMemory last with backend := another } := ⟨faults, store, later⟩
      exact shared.abort _ _ _

theorem serve_next (session : Session) (elapsed : Duration) (resources : Resources) :
    (session.serve elapsed resources).2.memory.next = resources.memory.next := by
  have turn := session.serve_turn elapsed resources
  generalize session.serve elapsed resources = result at turn
  cases turn with
  | idle => rfl
  | crashed => rfl
  | refused held =>
    rw [abort_memory]
    exact Channel.ServerEnd.next_publish _ _ _
  | closed held =>
    rw [teardown_memory]
    exact (Channel.ServerEnd.next_publish _ _ _).trans (Region.Window.next_write _ _ _)
  | @answered link _ outcome _ _ _ _ _ _ _ _ published =>
    have next := next_publish link.channel resources.memory outcome.status outcome.chunks
    rw [published] at next
    exact next
  | @overflowed link _ outcome _ _ _ _ _ _ _ _ overflow =>
    have next := next_publish link.channel resources.memory outcome.status outcome.chunks
    rw [overflow] at next
    rw [abort_memory]
    exact (Channel.ServerEnd.next_publish _ _ _).trans next

theorem handle_tables {backend later : Store.Backend} {context counted : Store.Context} {outcome : Store.Outcome}
    (handled : backend.handle context request = (.finished outcome later, counted)) :
    later.store.tables = backend.store.tables ∨ later.store.tables = (backend.store.answer request).2.tables := by
  unfold Store.Backend.handle Store.handle at handled
  dsimp only at handled
  split at handled
  · obtain ⟨_, rfl⟩ := Store.Backend.Effect.finished.inj (congrArg Prod.fst handled)
    exact .inl rfl
  · cases congrArg Prod.fst handled
  · obtain ⟨_, rfl⟩ := Store.Backend.Effect.finished.inj (congrArg Prod.fst handled)
    exact .inr rfl

theorem serve_tables (session : Session) (elapsed : Duration) (resources : Resources) :
    (session.serve elapsed resources).2.backend.store.tables = resources.backend.store.tables ∨
      ∃ link request, session.link = some link ∧ Asks link resources.memory request ∧
        (session.serve elapsed resources).2.backend.store.tables =
          (resources.backend.store.answer request).2.tables := by
  have turn := session.serve_turn elapsed resources
  generalize session.serve elapsed resources = result at turn
  cases turn with
  | idle => exact .inl rfl
  | crashed => exact .inl rfl
  | refused held => exact .inl (abort_tables _ _ _ _)
  | closed held =>
    obtain ⟨closed, same⟩ := teardown_backend (session.counted.note (.published .ok))
      (.ok ⟨session.id, session.requests + 1⟩) (resources.concluded resources.backend _ .close .ok elapsed)
    rw [same]
    exact .inl rfl
  | answered held asks other handled =>
    exact (handle_tables handled).imp_right fun changed => ⟨_, _, held, asks, changed⟩
  | @overflowed link request outcome backend context cause memory held asks other handled overflow =>
    rw [abort_tables]
    exact (handle_tables handled).imp_right fun changed => ⟨link, request, held, asks, changed⟩

/-- To a party that has other cells and sees none of the records that are changed, a turn makes no
difference. -/
theorem serve_unseen {others : Nat → Prop} (owns : session.Owns others) (apart : ∀ index, own index → ¬ others index)
    (unseen : ∀ link request, session.link = some link → Asks link first.memory request →
      ∀ name key, request.Changes name key → ¬ seen name key) (elapsed : Duration) :
    first.SameFor own seen (session.serve elapsed first).2 where
  faults := (session.serve_faults elapsed first).symm
  store := by
    obtain same | ⟨link, request, held, asks, changed⟩ := session.serve_tables elapsed first
    · exact .of_tables same.symm
    · exact (first.backend.store.answer_sameOn (unseen link request held asks)).trans (.of_tables changed.symm)
  memory := by
    refine ⟨(session.serve_next elapsed first).symm, fun index owned => ?_⟩
    refine (serve_cell (fun link held => ?_) elapsed first).symm
    obtain ⟨request, response⟩ := owns link held
    exact ⟨fun same => apart index owned (same ▸ request), fun same => apart index owned (same ▸ response)⟩

end Session

end SharedRecords
