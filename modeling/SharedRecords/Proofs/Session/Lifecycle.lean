import SharedRecords.Proofs.Session.Responses
import SharedRecords.Proofs.Store.Edits

/-!
The life of a session, as others can see it. Its states follow one another in order, it responds only while
it serves, and what it holds is given back once, behind its last response. What it notes of that in its journal
is what happens to its response flag and to the store.
-/

namespace SharedRecords

namespace Session

/-- What holds of a session at any time of its life. -/
structure Lifecycle (session : Session) : Prop where
  path : (states session.journal).IsChain fun first second => first.canAdvance second = true
  first : (states session.journal).head? = some .created
  current : standing? session.journal = some session.state
  published : ∀ status past, .published status :: past <:+ session.journal → standing? past = some .serving
  /-- The session closes right behind its last response, which says whether it was asked to. -/
  closed : ∀ past, .entered .closing :: past <:+ session.journal →
    ∃ status earlier, past = .published status :: earlier ∧ (status = .ok ∨ status = .aborted)
  verdict : ∀ result, session.ending = some (.finished result) → session.state = .terminated ∧
    ∃ past, .entered .closing :: .published (farewell result) :: past <:+ session.journal
  /-- The context is given back once by a session that was ready and has terminated, and by no other. -/
  context : session.journal.count .contextClosed =
    if .entered .ready ∈ session.journal ∧ session.state = .terminated then 1 else 0
  /-- Both regions are unmapped before the context is given back, and the session terminates after. -/
  order : ∀ past, .contextClosed :: past <:+ session.journal →
    .unmapped ∈ past ∧ standing? past = some .closing

/-- How far a session has come. It stays where it is if the store crashes under it. -/
inductive Stage (session : Session) (memory : Region.Memory) : Prop where
  | serving (answers : List Wire.Status) (told : session.journal = servingJournal answers)
      (state : session.state = .serving) (unfinished : ∀ result, session.ending ≠ some (.finished result))
      (mapped : session.Mapped memory)
  | closing (handles : List Region.Handle) (result : Except Error Summary) (answers : List Wire.Status)
      (told : session.journal = closingJournal handles (farewell result) answers)
      (state : session.state = .closing) (unlinked : session.link = none)
      (crashed : session.ending = some .crashed)
  | ended (handles : List Region.Handle) (result : Except Error Summary) (answers : List Wire.Status)
      (told : session.journal = endedJournal handles (farewell result) answers)
      (state : session.state = .terminated) (unlinked : session.link = none)
      (finished : session.ending = some (.finished result))

theorem farewell_known (result : Except Error Summary) :
    farewell result = .ok ∨ farewell result = .aborted := by
  cases result with
  | ok summary => exact .inl rfl
  | error error => exact .inr rfl

theorem lifecycle_of_legal {session : Session} {path : List State} (legal : Legal session.journal)
    (entered : states session.journal = path)
    (advances : path.IsChain fun first second => first.canAdvance second = true)
    (first : path.head? = some .created) (last : path.getLast? = some session.state)
    (verdict : ∀ result, session.ending = some (.finished result) → session.state = .terminated ∧
      ∃ past, .entered .closing :: .published (farewell result) :: past <:+ session.journal)
    (context : session.journal.count .contextClosed =
      if .entered .ready ∈ session.journal ∧ session.state = .terminated then 1 else 0) : session.Lifecycle where
  path := by
    rw [entered]
    exact advances
  first := by
    rw [entered]
    exact first
  current := by
    rw [standing_eq, entered]
    exact last
  published := legal.published
  closed := legal.closed
  verdict := verdict
  context := context
  order := legal.order

theorem Stage.lifecycle {session : Session} {memory : Region.Memory} (stage : session.Stage memory) :
    session.Lifecycle := by
  cases stage with
  | serving answers told state unfinished =>
    have legal := (ended_legal [] (.inl rfl) answers).earlier
      ((serving_of_closing [] .ok answers).trans (closing_of_ended [] .ok answers))
    have entered := states_serving answers
    rw [← told] at legal entered
    apply lifecycle_of_legal legal entered
    · decide
    · rfl
    · rw [state]
      rfl
    · intro result finished
      exact absurd finished (unfinished result)
    · rw [told, count_serving, state]
      simp
  | closing handles result answers told state unlinked crashed =>
    have legal := (ended_legal handles (farewell_known result) answers).earlier
      (closing_of_ended handles (farewell result) answers)
    have entered := states_closing handles (farewell result) answers
    rw [← told] at legal entered
    apply lifecycle_of_legal legal entered
    · decide
    · rfl
    · rw [state]
      rfl
    · intro other finished
      cases crashed.symm.trans finished
    · rw [told, count_closing, state]
      simp
  | ended handles result answers told state unlinked finished =>
    have legal := ended_legal handles (farewell_known result) answers
    have entered := states_ended handles (farewell result) answers
    rw [← told] at legal entered
    apply lifecycle_of_legal legal entered
    · decide
    · rfl
    · rw [state]
      rfl
    · intro other same
      obtain rfl := Ending.finished.inj (Option.some.inj (finished.symm.trans same))
      refine ⟨state, servingJournal answers, ?_⟩
      rw [told]
      exact (closes_closing handles _ answers).trans (closing_of_ended handles _ answers)
    · have ready : .entered .ready ∈ session.journal := by
        rw [told]
        simp [endedJournal, closingJournal, servingJournal, openingJournal]
      rw [if_pos ⟨ready, state⟩, told]
      simp [endedJournal, count_closing]

/-! ## From one stage to the next -/

variable {session : Session} {resources : Resources} {memory : Region.Memory} {elapsed : Duration}

theorem Stage.of_le {wider : Region.Memory} (stage : session.Stage memory) (next : memory.next ≤ wider.next) :
    session.Stage wider := by
  cases stage with
  | serving answers told state unfinished mapped => exact .serving answers told state unfinished (mapped.of_le next)
  | closing handles result answers told state unlinked crashed =>
    exact .closing handles result answers told state unlinked crashed
  | ended handles result answers told state unlinked finished =>
    exact .ended handles result answers told state unlinked finished

theorem closeContext_stage {handles : List Region.Handle} {result : Except Error Summary}
    {answers : List Wire.Status} (told : session.journal = closingJournal handles (farewell result) answers)
    (state : session.state = .closing) (unlinked : session.link = none) (resources : Resources)
    (memory : Region.Memory) :
    (session.closeContext result resources).1.Stage memory ∧
      (session.closeContext result resources).1.state ≠ .serving := by
  unfold closeContext
  cases resources.backend.closeContext with
  | crashed =>
    refine ⟨.closing handles result answers told state rfl rfl, ?_⟩
    show session.state ≠ .serving
    rw [state]
    nofun
  | finished _ backend =>
    have whole : .entered .terminated :: .contextClosed :: session.journal =
        endedJournal handles (farewell result) answers := by
      rw [told]
      rfl
    exact ⟨.ended handles result answers whole rfl unlinked rfl, nofun⟩

theorem teardown_stage {answers : List Wire.Status} {result : Except Error Summary}
    (told : session.journal = .published (farewell result) :: servingJournal answers) (resources : Resources)
    (memory : Region.Memory) : (session.teardown result resources).1.Stage memory ∧
      (session.teardown result resources).1.state ≠ .serving := by
  let unmapped := { (session.enter .closing).note .unmapped with link := none }
  obtain ⟨handles, released⟩ := releaseRegions_eq unmapped resources
  have journal : (unmapped.releaseRegions resources).1.journal =
      closingJournal handles (farewell result) answers := by
    rw [released]
    show handles.map .released ++ .unmapped :: .entered .closing :: session.journal = _
    rw [told]
    rfl
  have state : (unmapped.releaseRegions resources).1.state = .closing := by rw [released]; rfl
  have unlinked : (unmapped.releaseRegions resources).1.link = none := by rw [released]
  exact closeContext_stage journal state unlinked _ memory

/-! ## What the store takes back -/

/-- The store is not about to refuse a context that is given back. -/
def Resources.TakesBack (resources : Resources) : Prop :=
  ∀ error, resources.backend.faults .closeContext ≠ some (.fails error)

/-- The store has taken back as many contexts in the turn as the session has noted. -/
def Settles (session : Session) (resources : Resources) (turn : Session × Resources) : Prop :=
  turn.2.backend.store.closed + session.journal.count .contextClosed =
    resources.backend.store.closed + turn.1.journal.count .contextClosed

theorem closeContext_settles (session : Session) (result : Except Error Summary) (planned : resources.TakesBack) :
    session.Settles resources (session.closeContext result resources) := by
  unfold Settles closeContext Store.Backend.closeContext Store.Backend.guarded
  cases plan : resources.backend.faults .closeContext with
  | none =>
    have once : (.entered .terminated :: .contextClosed :: session.journal).count .contextClosed =
        session.journal.count .contextClosed + 1 := by simp
    dsimp only [enter, note, Store.closeContext]
    rw [once, Nat.add_right_comm, Nat.add_assoc]
  | some fault =>
    cases fault with
    | fails error => exact absurd plan (planned error)
    | crashes => rfl

theorem teardown_settles (session : Session) (result : Except Error Summary) (planned : resources.TakesBack) :
    session.Settles resources (session.teardown result resources) := by
  let unmapped := { (session.enter .closing).note .unmapped with link := none }
  obtain ⟨handles, released⟩ := releaseRegions_eq unmapped resources
  have backend : (unmapped.releaseRegions resources).2.backend = resources.backend := releaseRegions_backend ..
  have journal : (unmapped.releaseRegions resources).1.journal.count .contextClosed =
      session.journal.count .contextClosed := by
    have none : (handles.map Event.released).count .contextClosed = 0 := List.count_eq_zero.2 (by simp)
    have before : (Event.unmapped :: .entered .closing :: session.journal).count .contextClosed =
        session.journal.count .contextClosed := by simp
    rw [released]
    show (handles.map Event.released ++ .unmapped :: .entered .closing :: session.journal).count _ = _
    rw [List.count_append, none, Nat.zero_add, before]
  have still : (unmapped.releaseRegions resources).2.TakesBack := fun error => backend.symm ▸ planned error
  have closed := closeContext_settles (unmapped.releaseRegions resources).1 result still
  unfold Settles at closed ⊢
  rw [journal, backend] at closed
  exact closed

theorem closeContext_hands (session : Session) (result : Except Error Summary)
    (planned : resources.backend.faults .closeContext = none) :
    .contextClosed ∈ (session.closeContext result resources).1.journal ∧
      (session.closeContext result resources).2.backend.store.closed = resources.backend.store.closed + 1 := by
  unfold closeContext Store.Backend.closeContext Store.Backend.guarded
  rw [planned]
  exact ⟨List.mem_cons_of_mem _ List.mem_cons_self, rfl⟩

theorem teardown_hands (session : Session) (result : Except Error Summary)
    (planned : resources.backend.faults .closeContext = none) :
    .contextClosed ∈ (session.teardown result resources).1.journal ∧
      (session.teardown result resources).2.backend.store.closed = resources.backend.store.closed + 1 := by
  let unmapped := { (session.enter .closing).note .unmapped with link := none }
  have backend : (unmapped.releaseRegions resources).2.backend = resources.backend := releaseRegions_backend ..
  have handed := closeContext_hands (unmapped.releaseRegions resources).1 result (backend.symm ▸ planned)
  rw [backend] at handed
  exact handed

theorem handle_contexts {backend later : Store.Backend} {context counted : Store.Context} {request : Wire.Request}
    {outcome : Store.Outcome} (done : backend.handle context request = (.finished outcome later, counted)) :
    later.store.closed = backend.store.closed := by
  unfold Store.Backend.handle at done
  dsimp only at done
  split at done
  · rw [← (Store.Backend.Effect.finished.inj (congrArg Prod.fst done)).2]
  · cases congrArg Prod.fst done
  · rw [← (Store.Backend.Effect.finished.inj (congrArg Prod.fst done)).2]
    exact (backend.store.answer_follows request).contexts.2

theorem Leaves.settles {leaving : Session} {result : Except Error Summary} {between : Resources}
    (leaves : session.Leaves elapsed resources leaving result between) (planned : resources.TakesBack) :
    session.Settles resources (leaving.teardown result between) := by
  have noted : leaving.journal.count .contextClosed = session.journal.count .contextClosed := by
    rw [leaves.noted]
    simp
  have before : between.backend.faults = resources.backend.faults ∧
      between.backend.store.closed = resources.backend.store.closed := by
    cases leaves with
    | refused | closed => exact ⟨rfl, rfl⟩
    | overflowed _ _ _ handled => exact ⟨Store.Backend.handle_faults handled, handle_contexts handled⟩
  have still : between.TakesBack := fun error => before.1.symm ▸ planned error
  have closed := teardown_settles leaving result still
  unfold Settles at closed ⊢
  rw [noted, before.2] at closed
  exact closed

theorem serve_settles (session : Session) (elapsed : Duration) (planned : resources.TakesBack) :
    session.Settles resources (session.serve elapsed resources) := by
  have turn := session.serve_turn elapsed resources
  generalize session.serve elapsed resources = outcome at turn
  cases turn with
  | idle | crashed => rfl
  | @answered link request outcome backend context told memory held asks other handled published =>
    have closed : backend.store.closed = resources.backend.store.closed := handle_contexts handled
    have noted : (.published told :: session.journal).count .contextClosed =
        session.journal.count .contextClosed := by simp
    exact (congrArg (· + _) closed).trans (congrArg (_ + ·) noted).symm
  | refused held refuses =>
    have leaves : session.Leaves elapsed resources _ _ _ := .refused held refuses
    exact leaves.settles planned
  | closed held asks =>
    have leaves : session.Leaves elapsed resources _ _ _ := .closed held asks
    exact leaves.settles planned
  | overflowed held asks other handled overflow =>
    have leaves : session.Leaves elapsed resources _ _ _ := .overflowed held asks other handled overflow
    exact leaves.settles planned

/-! ## Turns -/

/-- A turn that ends a session gives back what it holds, behind its last response and without a further
write to shared memory. The client finds that response in the flag. -/
structure EndsBy (turn : Session × Resources) (before : Session) (result : Except Error Summary)
    (concluded : Resources) : Prop where
  serving : before.state = .serving
  told : ∃ answers, before.journal = .published (farewell result) :: servingJournal answers
  raised : ∃ link, before.link = some link ∧
    concluded.memory.flag link.channel.response.index = (farewell result).byte
  ends : turn = before.teardown result concluded
  memory : turn.2.memory = concluded.memory
  settles : concluded.TakesBack → before.Settles concluded turn
  /-- Unless a fault is planned, the context is among what it gives back. -/
  handed : concluded.backend.faults .closeContext = none → .contextClosed ∈ turn.1.journal ∧
    turn.2.backend.store.closed = concluded.backend.store.closed + 1

/-- What a turn makes of a session that serves. -/
inductive Onward (turn : Session × Resources) : Prop where
  | serving (answers : List Wire.Status) (told : turn.1.journal = servingJournal answers)
      (state : turn.1.state = .serving) (unfinished : ∀ result, turn.1.ending ≠ some (.finished result))
  | ended {before : Session} {result : Except Error Summary} {concluded : Resources}
      (ends : EndsBy turn before result concluded)

theorem serve_onward {answers : List Wire.Status} (told : session.journal = servingJournal answers)
    (state : session.state = .serving) (unfinished : ∀ result, session.ending ≠ some (.finished result))
    (mapped : session.Mapped resources.memory) (elapsed : Duration) : Onward (session.serve elapsed resources) := by
  have turn := session.serve_turn elapsed resources
  generalize session.serve elapsed resources = result at turn
  have ends {leaving : Session} {result : Except Error Summary} {between : Resources} {link : Link}
      (leaves : session.Leaves elapsed resources leaving result between) (held : session.link = some link)
      (still : leaving.state = session.state) (linked : leaving.link = session.link) :
      Onward (leaving.teardown result between) := by
    have ended : EndsBy (leaving.teardown result between) leaving result between := {
      serving := still.trans state
      told := ⟨answers, told ▸ leaves.noted⟩
      raised := ⟨link, linked.trans held, leaves.raised held (mapped link held)⟩
      ends := rfl
      memory := teardown_memory _ _ _
      settles := teardown_settles leaving result
      handed := teardown_hands leaving result }
    exact .ended ended
  cases turn with
  | idle => exact .serving answers told state unfinished
  | crashed => exact .serving answers told state nofun
  | @answered _ _ _ _ _ status =>
    have noted : .published status :: session.journal = servingJournal (status :: answers) := by
      rw [told]
      rfl
    exact .serving _ noted state unfinished
  | refused held refuses => exact ends (.refused held refuses) held rfl rfl
  | closed held asks => exact ends (.closed held asks) held rfl rfl
  | overflowed held asks other handled overflow =>
    exact ends (.overflowed held asks other handled overflow) held rfl rfl

theorem serve_unlinked (unlinked : session.link = none) (elapsed : Duration) (resources : Resources) :
    session.serve elapsed resources = (session, resources) :=
  serve_idle (fun _ held => nomatch unlinked.symm.trans held) elapsed

theorem Stage.serve (stage : session.Stage resources.memory) (elapsed : Duration) :
    (session.serve elapsed resources).1.Stage (session.serve elapsed resources).2.memory := by
  cases stage with
  | serving answers told state unfinished mapped =>
    cases serve_onward told state unfinished mapped elapsed with
    | serving later told state unfinished => exact .serving later told state unfinished (mapped.serve elapsed)
    | ended ends =>
      obtain ⟨answers, told⟩ := ends.told
      rw [ends.ends]
      exact (teardown_stage told _ _).1
  | closing handles result answers told state unlinked crashed =>
    rw [serve_unlinked unlinked]
    exact .closing handles result answers told state unlinked crashed
  | ended handles result answers told state unlinked finished =>
    rw [serve_unlinked unlinked]
    exact .ended handles result answers told state unlinked finished

/-! ## Starting -/

/-- The states through which an attempt to start fails: a region cannot be mapped, or the store opens no
context, or it crashes. -/
def startupPath? : Error → Option (List State)
  | .region _ => some [.created, .terminated]
  | .store _ => some [.created, .attached, .terminated]
  | .crashed _ => some [.created, .attached]
  | _ => none

theorem terminates_of_startup {error : Error} {path : List State} (startup : startupPath? error = some path)
    (sane : ∀ id, error ≠ .crashed id) : path.getLast? = some .terminated := by
  cases error with
  | region | store =>
    obtain rfl := Option.some.inj startup
    rfl
  | crashed id => exact absurd rfl (sane id)
  | _ => contradiction

def Began (session : Session) : Option Error → Prop
  | none => session.journal = [.entered .ready, .entered .attached, .entered .created] ∧ session.ending = none
  | some error => ∃ path, startupPath? error = some path ∧ path.getLast? = some session.state ∧
      session.journal = (path.map .entered).reverse ∧ ∀ result, session.ending ≠ some (.finished result)

theorem open?_began {channel : Channel.ServerEnd}
    (told : session.journal = [.entered .attached, .entered .created]) (state : session.state = .attached)
    (unended : session.ending = none) (resources : Resources) :
    (session.open? channel resources).2.1.Began (session.open? channel resources).1 := by
  have noted (next : State) : (session.enter next).journal =
      [.entered next, .entered .attached, .entered .created] := by
    show .entered next :: session.journal = _
    rw [told]
  unfold open?
  cases resources.backend.openContext with
  | crashed => exact ⟨_, rfl, congrArg some state.symm, told, nofun⟩
  | finished result backend =>
    cases result with
    | error error =>
      refine ⟨_, rfl, rfl, noted .terminated, ?_⟩
      intro result finished
      exact nomatch unended.symm.trans finished
    | ok context => exact ⟨noted .ready, unended⟩

theorem start_began (id : SessionId) (holding : Holding) (options : Options) (resources : Resources) :
    (start id holding options resources).2.1.Began (start id holding options resources).1 := by
  unfold start
  dsimp only
  rcases resources.pool.map holding.request with ⟨_ | request, mapped⟩
  · exact ⟨_, rfl, rfl, rfl, nofun⟩
  · dsimp only
    rcases mapped.map holding.response with ⟨_ | response, pool⟩
    · exact ⟨_, rfl, rfl, rfl, nofun⟩
    · exact open?_began rfl rfl rfl _

/-- A start that succeeds takes one context from the store, and one that fails takes none. -/
def Resources.Opens (resources later : Resources) : Option Error → Prop
  | none => later.backend.store = resources.backend.store.openContext.2
  | some _ => later.backend.store = resources.backend.store

theorem open?_opens (session : Session) (channel : Channel.ServerEnd) (resources : Resources) :
    resources.Opens (session.open? channel resources).2.2 (session.open? channel resources).1 := by
  unfold open? Store.Backend.openContext Store.Backend.guarded
  cases resources.backend.faults .openContext with
  | none => rfl
  | some fault =>
    cases fault with
    | fails | crashes => rfl

theorem start_opens (id : SessionId) (holding : Holding) (options : Options) (resources : Resources) :
    resources.Opens (start id holding options resources).2.2 (start id holding options resources).1 := by
  unfold start
  dsimp only
  rcases resources.pool.map holding.request with ⟨_ | request, mapped⟩
  · rfl
  · dsimp only
    rcases mapped.map holding.response with ⟨_ | response, pool⟩
    · rfl
    · exact open?_opens _ _ _

theorem lifecycle_of_failed {error : Error} {path : List State} (startup : startupPath? error = some path)
    (current : path.getLast? = some session.state) (told : session.journal = (path.map .entered).reverse)
    (unfinished : ∀ result, session.ending ≠ some (.finished result)) :
    session.Lifecycle ∧ states session.journal = path := by
  have early : path.IsChain (fun first second => first.canAdvance second = true) ∧
      path.head? = some .created ∧ .ready ∉ path ∧ .closing ∉ path := by
    cases error with
    | region | store | crashed =>
      obtain rfl := Option.some.inj startup
      decide
    | _ => contradiction
  obtain ⟨legal, first, unready, unclosed⟩ := early
  have entered : states session.journal = path := by
    unfold states
    rw [told, List.filterMap_reverse, List.reverse_reverse, List.filterMap_map]
    exact List.filterMap_some
  have only {event : Event} (member : event ∈ session.journal) : ∃ state ∈ path, event = .entered state := by
    rw [told, List.mem_reverse, List.mem_map] at member
    obtain ⟨state, inside, same⟩ := member
    exact ⟨state, inside, same.symm⟩
  have bare : Legal session.journal := by
    constructor
    · intro status past suffix
      obtain ⟨_, _, same⟩ := only (suffix.subset List.mem_cons_self)
      contradiction
    · intro past suffix
      obtain ⟨state, inside, same⟩ := only (suffix.subset List.mem_cons_self)
      obtain rfl := Event.entered.inj same
      exact absurd inside unclosed
    · intro past suffix
      obtain ⟨_, _, same⟩ := only (suffix.subset List.mem_cons_self)
      contradiction
  refine ⟨lifecycle_of_legal bare entered legal first current ?_ ?_, entered⟩
  · intro result finished
    exact absurd finished (unfinished result)
  · have unopened : .entered .ready ∉ session.journal := by
      intro member
      obtain ⟨state, inside, same⟩ := only member
      obtain rfl := Event.entered.inj same
      exact unready inside
    have unclosed : .contextClosed ∉ session.journal := by
      intro member
      obtain ⟨_, _, same⟩ := only member
      contradiction
    rw [if_neg fun both => unopened both.1, List.count_eq_zero.2 unclosed]

/-! ## Whole lives -/

/-- What a session can come to: it takes turns, and between them others do what they like to the regions,
the store and everything else that is shared. No region that is mapped goes away. -/
inductive Future (session : Session) (resources : Resources) : Session → Resources → Prop where
  | now : Future session resources session resources
  | turn {later : Session} {shared : Resources} (future : Future session resources later shared)
      (elapsed : Duration) :
      Future session resources (later.serve elapsed shared).1 (later.serve elapsed shared).2
  | meanwhile {later : Session} {shared other : Resources} (future : Future session resources later shared)
      (kept : shared.memory.next ≤ other.memory.next) : Future session resources later other

theorem Future.stage {later : Session} {shared : Resources} (future : Future session resources later shared)
    (stage : session.Stage resources.memory) : later.Stage shared.memory := by
  induction future with
  | now => exact stage
  | turn _ elapsed ih => exact ih.serve elapsed
  | meanwhile _ kept ih => exact ih.of_le kept

/-- What holds of a launched session whenever it is looked at. -/
structure Lives (session : Session) (shared : Resources) : Prop where
  lifecycle : session.Lifecycle
  forward : (states session.journal).Pairwise fun first second => first.byte < second.byte
  /-- What a turn notes as published is what the response flag holds behind it. If nothing is noted, the flag
  holds what it held. -/
  tells : ∀ elapsed link, session.link = some link →
    (session.serve elapsed shared).2.memory.flag link.channel.response.index =
      (session.said? (session.serve elapsed shared).1).elim
        (shared.memory.flag link.channel.response.index) Wire.Status.byte
  /-- What a turn notes as given back is what the store has taken back. -/
  settles : shared.TakesBack → ∀ elapsed, session.Settles shared (session.serve elapsed shared)
  /-- The turn that ends its service is a teardown behind the last response. -/
  ends : session.state = .serving → ∀ elapsed, (session.serve elapsed shared).1.state ≠ .serving →
    ∃ before result concluded, EndsBy (session.serve elapsed shared) before result concluded
  /-- From closing on it serves nothing and touches nothing. -/
  rest : session.state ≠ .serving → ∀ elapsed other, session.serve elapsed other = (session, other)

theorem Stage.lives {shared : Resources} (stage : session.Stage shared.memory) : session.Lives shared where
  lifecycle := stage.lifecycle
  forward := forward_of_path stage.lifecycle.path
  tells := by
    intro elapsed link held
    cases stage with
    | serving _ _ _ _ mapped => exact serve_tells held (mapped link held) elapsed
    | closing _ _ _ _ _ unlinked => exact nomatch unlinked.symm.trans held
    | ended _ _ _ _ _ unlinked => exact nomatch unlinked.symm.trans held
  settles := fun planned elapsed => session.serve_settles elapsed planned
  ends := by
    intro serves elapsed ended
    cases stage with
    | serving answers told state unfinished mapped =>
      cases serve_onward told state unfinished mapped elapsed with
      | serving _ _ still => exact absurd still ended
      | ended ends => exact ⟨_, _, _, ends⟩
    | closing _ _ _ _ state => exact nomatch serves.symm.trans state
    | ended _ _ _ _ state => exact nomatch serves.symm.trans state
  rest := by
    intro idle elapsed other
    cases stage with
    | serving _ _ state => exact absurd state idle
    | closing _ _ _ _ _ unlinked => exact serve_unlinked unlinked elapsed other
    | ended _ _ _ _ _ unlinked => exact serve_unlinked unlinked elapsed other

end Session

namespace Manager

/-- Every session that a manager launches, whether it starts or not, lives in order. One that does not start
has terminated, unless the store crashed under it, and it is not among those that serve. The store has handed
out a context for a session that starts, and none for another. -/
theorem launch_lifecycle (manager : Manager) (holding : Session.Holding) (sound : manager.pool.Sound) :
    match manager.launch holding with
    | (.ok address, later) => ∃ session : Session, later.sessions = manager.sessions ++ [session] ∧
        session.address = address ∧ session.state = .serving ∧
        later.resources.backend.store = manager.resources.backend.store.openContext.2 ∧
        ∀ future shared, session.Future later.resources future shared → future.Lives shared
    | (.error error, later) => later.sessions = manager.sessions ∧
        later.resources.backend.store = manager.resources.backend.store ∧
        ∃ (attempt : Session) (shared : Session.Resources) (path : List Session.State),
          Session.start ⟨UInt64.ofNat (manager.launched + 1)⟩ holding manager.options manager.resources =
            (some error, attempt, shared) ∧
          Session.startupPath? error = some path ∧ Session.states attempt.journal = path ∧
          attempt.Lifecycle ∧ ((∀ id, error ≠ .crashed id) → attempt.state = .terminated) := by
  have began := Session.start_began ⟨UInt64.ofNat (manager.launched + 1)⟩ holding manager.options
    manager.resources
  have opens := Session.start_opens ⟨UInt64.ofNat (manager.launched + 1)⟩ holding manager.options
    manager.resources
  unfold launch
  dsimp only
  rcases started : Session.start ⟨UInt64.ofNat (manager.launched + 1)⟩ holding manager.options
    manager.resources with ⟨_ | error, session, shared⟩
  · rw [started] at began opens
    obtain ⟨told, unended⟩ := began
    refine ⟨session.enter .serving, rfl, rfl, rfl, opens, ?_⟩
    intro future later lived
    have journal : (session.enter .serving).journal = Session.servingJournal [] := by
      show .entered .serving :: session.journal = _
      rw [told]
      rfl
    have unfinished : ∀ result, (session.enter .serving).ending ≠ some (.finished result) :=
      fun result finished => nomatch unended.symm.trans finished
    have mapped : (session.enter .serving).Mapped shared.memory :=
      fun link held => Session.start_mapped sound started link held
    have stage : (session.enter .serving).Stage shared.memory := .serving [] journal rfl unfinished mapped
    exact (lived.stage stage).lives
  · rw [started] at began opens
    obtain ⟨path, startup, current, told, unfinished⟩ := began
    obtain ⟨lifecycle, entered⟩ := Session.lifecycle_of_failed startup current told unfinished
    refine ⟨?_, ?_, session, shared, path, rfl, startup, entered, lifecycle, ?_⟩
    · unfold discard
      dsimp only
      split
      · rfl
      · rfl
    · refine Eq.trans ?_ opens
      unfold discard
      dsimp only
      split
      · rfl
      · rfl
    · intro sane
      exact Option.some.inj (current.symm.trans (Session.terminates_of_startup startup sane))

/-- A manager over an empty store, with two regions that a client has allocated. -/
def clientPair : Manager :=
  let pool := ((Region.Pool.anonymous .empty none).allocate 64).2
  new (.ofStore .empty) (pool.allocate 64).2 ⟨64, .spin, 0, "session"⟩

/-- The client of a session asks it to close. It finds the answer in its flag, and the store has its context
back. -/
theorem clientPair_launch_lifecycle : clientPair.pool.Sound ∧ ∃ session : Session, ∃ asked : Session.Resources,
    (clientPair.launch ⟨.anonymous 1, .anonymous 2, false⟩).2.sessions = [session] ∧
    session.Lives asked ∧ asked.backend.store.closed = 0 ∧
    (session.serve .zero asked).2.memory.flag 1 = Wire.Status.ok.byte ∧
    (session.serve .zero asked).2.backend.store.closed = 1 := by
  have bare : Region.Pool.Bare .empty := nofun
  have sound : clientPair.pool.Sound := ((Region.Pool.anonymous_sound bare none).allocate 64).allocate 64
  let holding : Session.Holding := ⟨.anonymous 1, .anonymous 2, false⟩
  let later := (clientPair.launch holding).2
  let asked := later.resources.setMemory (later.memory.setFlag 0 Wire.Opcode.close.byte)
  have launched : clientPair.launch holding = (.ok ⟨⟨1⟩, .anonymous 1, .anonymous 2⟩, later) := rfl
  have lifecycle := clientPair.launch_lifecycle holding sound
  rw [launched] at lifecycle
  obtain ⟨session, listed, _, _, _, lives⟩ := lifecycle
  have lived := lives session asked (.meanwhile .now (Nat.le_refl _))
  obtain rfl := (List.cons.inj listed).1
  refine ⟨sound, _, asked, listed, lived, rfl, ?_, ?_⟩
  · exact lived.tells .zero _ rfl
  · exact lived.settles nofun .zero

end Manager

end SharedRecords
