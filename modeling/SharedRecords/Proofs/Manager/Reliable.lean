import SharedRecords.Proofs.Manager.Balance

/-!
What a session tells whoever collects it. A session keeps the number it was started under, a session that has
ended does nothing more, and how it has ended names no session but this one.
-/

namespace SharedRecords

namespace Session

variable {session leaving : Session} {elapsed : Duration} {resources between : Resources}
  {result : Except Error Summary}

theorem closeContext_id (session : Session) (result : Except Error Summary) (resources : Resources) :
    (session.closeContext result resources).1.id = session.id := by
  unfold closeContext
  split
  · rfl
  · rfl

theorem releaseRegions_id (session : Session) (resources : Resources) :
    (session.releaseRegions resources).1.id = session.id := by
  unfold releaseRegions
  dsimp only
  split
  · rfl
  · rfl

theorem teardown_id (session : Session) (result : Except Error Summary) (resources : Resources) :
    (session.teardown result resources).1.id = session.id :=
  (closeContext_id _ _ _).trans (releaseRegions_id _ _)

theorem serve_id (session : Session) (elapsed : Duration) (resources : Resources) :
    (session.serve elapsed resources).1.id = session.id := by
  have turn := session.serve_turn elapsed resources
  generalize session.serve elapsed resources = outcome at turn
  cases turn with
  | idle | crashed | answered => rfl
  | refused | closed | overflowed => exact teardown_id _ _ _

/-- What a session can tell of its end: nothing that names another one. -/
inductive Tells (id : SessionId) : Except Error Summary → Prop where
  | closed (requests : Nat) : Tells id (.ok ⟨id, requests⟩)
  | broken (cause : Violation) : Tells id (.error (.violation cause))
  | crashed : Tells id (.error (.crashed id))

theorem Leaves.tells (leaves : session.Leaves elapsed resources leaving result between) :
    leaving.id = session.id ∧ Tells session.id result := by
  cases leaves with
  | refused => exact ⟨rfl, .broken _⟩
  | closed => exact ⟨rfl, .closed _⟩
  | overflowed => exact ⟨rfl, .broken _⟩

theorem Leaves.unended (leaves : session.Leaves elapsed resources leaving result between)
    (linked : session.ending = session.link.elim (some .crashed) fun _ => none) : leaving.ending = none := by
  cases leaves with
  | refused held | closed held | overflowed held =>
    rw [held] at linked
    exact linked

theorem result?_of_unended (unended : session.ending = none) : session.result? = none := by
  unfold result?
  rw [unended]
  rfl

end Session

namespace Manager

open Session (Tells)

/-- The session goes by this number, where there is one, and tells nothing of another. -/
def Progress.Known (id : SessionId) : Progress → Prop
  | asking | halfway _ | equipped _ | watching .. | leaving _ => True
  | attached session _ | started session => session.id = id
  | closing session result _ => session.id = id ∧ session.link = none ∧ session.ending = none ∧ Tells id result
  | ended session => session.id = id ∧ session.link = none ∧
    ∀ result, session.ending = some (.finished result) → Tells id result

namespace Launch

/-- The session is in order, goes by the number it was started under, and is on no list before it has started. -/
structure Reliable (launch : Launch) : Prop where
  orderly : launch.Orderly
  known : launch.progress.Known launch.id
  started : launch.listing ≠ .unlisted → launch.progress.HasStarted

variable {options : Session.Options} {launch later : Launch} {session : Session}
  {first last : Launch × Session.Resources} {services : List Session.Service} {record : List Session.Service}
  {result : Except Session.Error Session.Summary}

theorem advance_keeps (options : Session.Options) (launch : Launch) (resources : Session.Resources) :
    (launch.advance options resources).1.id = launch.id ∧
      (launch.advance options resources).1.listing = launch.listing := by
  obtain ⟨id, owned, progress, listing, granted, returned⟩ := launch
  unfold advance
  cases progress with
  | asking | halfway =>
    dsimp only
    rcases resources.pool.allocate options.capacity with ⟨_ | _, _⟩ <;> exact ⟨rfl, rfl⟩
  | equipped holding =>
    dsimp only
    rcases resources.pool.map holding.request with ⟨_ | _, _⟩ <;> exact ⟨rfl, rfl⟩
  | watching holding =>
    dsimp only
    rcases resources.pool.map holding.response with ⟨_ | _, _⟩ <;> exact ⟨rfl, rfl⟩
  | attached session channel =>
    dsimp only
    rcases session.open? channel resources with ⟨_ | _, _, _⟩ <;> exact ⟨rfl, rfl⟩
  | closing session result rest | leaving rest => cases rest <;> exact ⟨rfl, rfl⟩
  | started | ended => exact ⟨rfl, rfl⟩

theorem Act.id_eq (act : Act options first services last) : last.1.id = first.1.id := by
  cases act with
  | advance launch resources => exact (advance_keeps options launch resources).1
  | threadless | turn | part | enroll | collect => rfl

theorem closing_known (known : (Progress.closing session result []).Known launch.id)
    (closing : launch.progress = .closing session result []) (resources : Session.Resources) :
    (launch.advance options resources).1.progress.Known launch.id := by
  obtain ⟨named, unlinked, unended, tells⟩ := known
  unfold advance
  rw [closing]
  dsimp only [moves]
  refine ⟨(session.closeContext_id result resources).trans named, session.closeContext_link resources unlinked result,
    fun outcome ended => ?_⟩
  unfold Session.closeContext at ended
  split at ended
  · cases ended
  · obtain rfl : result = outcome := by simpa using ended
    exact tells

theorem advance_known (options : Session.Options) (known : launch.progress.Known launch.id)
    (resources : Session.Resources) :
    (launch.advance options resources).1.progress.Known (launch.advance options resources).1.id := by
  rw [(advance_keeps options launch resources).1]
  obtain ⟨id, owned, progress, listing, granted, returned⟩ := launch
  cases progress with
  | asking | halfway =>
    unfold advance
    dsimp only
    rcases resources.pool.allocate options.capacity with ⟨_ | _, _⟩ <;> trivial
  | equipped holding =>
    unfold advance
    dsimp only
    rcases resources.pool.map holding.request with ⟨_ | _, _⟩ <;> trivial
  | watching holding =>
    unfold advance
    dsimp only
    rcases resources.pool.map holding.response with ⟨_ | _, _⟩
    · trivial
    · rfl
  | attached session channel =>
    unfold advance
    dsimp only
    rcases opening : session.open? channel resources with ⟨_ | _, opened, after⟩
    · obtain ⟨context, rfl⟩ := Session.open?_opened opening
      exact known
    · trivial
  | closing session result rest =>
    cases rest with
    | nil => exact closing_known known rfl resources
    | cons handle rest => exact known
  | leaving rest => cases rest <;> trivial
  | started | ended => exact known

theorem advance_started (options : Session.Options) (started : launch.progress.HasStarted)
    (resources : Session.Resources) : (launch.advance options resources).1.progress.HasStarted := by
  obtain ⟨id, owned, progress, listing, granted, returned⟩ := launch
  cases progress with
  | asking | halfway | equipped | watching | attached | leaving => exact started.elim
  | closing session result rest => cases rest <;> trivial
  | started | ended => trivial

theorem Act.known (act : Act options first services last) (reliable : first.1.Reliable) :
    last.1.progress.Known last.1.id := by
  have known := reliable.known
  cases act with
  | advance launch resources => exact advance_known options known resources
  | threadless => trivial
  | @turn launch session later elapsed resources after serves served serving =>
    dsimp only at known
    rw [serves] at known
    have same := session.serve_id elapsed resources
    rw [served] at same
    exact same.trans known
  | @part launch session leaving result elapsed resources between serves leaves =>
    have orderly := reliable.orderly
    unfold Orderly at orderly
    dsimp only at known orderly
    rw [serves] at known orderly
    obtain ⟨named, tells⟩ := leaves.tells
    rw [show session.id = launch.id from known] at named tells
    exact ⟨named, rfl, leaves.unended orderly.2.2, tells⟩
  | enroll | collect => exact known

theorem Act.started (act : Act options first services last) (reliable : first.1.Reliable) :
    last.1.listing ≠ .unlisted → last.1.progress.HasStarted := by
  have started := reliable.started
  cases act with
  | advance launch resources =>
    rw [(advance_keeps options launch resources).2]
    exact fun listed => advance_started options (started listed) resources
  | threadless held =>
    dsimp only at started
    rw [held] at started
    exact fun listed => (started listed).elim
  | turn | part => exact fun _ => trivial
  | enroll launch begun => exact fun _ => begun
  | collect listed =>
    dsimp only at started
    rw [listed] at started
    exact fun _ => started nofun

theorem Act.reliable (act : Act options first services last) (reliable : first.1.Reliable) : last.1.Reliable :=
  ⟨act.orderly reliable.orderly, act.known reliable, act.started reliable⟩

/-- The session takes no further turn: the store has crashed under it, or it has terminated. -/
inductive Done (launch : Launch) : Prop where
  | struck {session : Session} (serves : launch.progress = .started session) (unlinked : session.link = none)
  | ended {session : Session} (ended : launch.progress = .ended session)

theorem Reliable.done (reliable : launch.Reliable) (told : launch.result? = some result) : launch.Done := by
  obtain ⟨orderly, known, _⟩ := reliable
  unfold Orderly at orderly
  unfold result? at told
  have silent (session : Session) (unended : session.ending = none) :
      (some session).bind Session.result? ≠ some result :=
    fun same => nomatch (Session.result?_of_unended unended).symm.trans same
  cases come : launch.progress with
  | asking | halfway | equipped | watching | leaving =>
    rw [come] at told
    contradiction
  | attached session channel =>
    rw [come] at told orderly
    exact absurd told (silent session orderly.2.2)
  | closing session outcome rest =>
    rw [come] at told known
    exact absurd told (silent session known.2.2.1)
  | ended session => exact .ended come
  | started session =>
    rw [come] at told orderly
    cases held : session.link with
    | none => exact .struck come held
    | some link =>
      have unended := orderly.2.2
      rw [held] at unended
      exact absurd told (silent session unended)

theorem Act.progress_of_done (act : Act options first services last) (done : first.1.Done) :
    last.1.progress = first.1.progress := by
  cases act with
  | advance launch resources =>
    unfold Launch.advance
    cases done with
    | struck serves =>
      dsimp only at serves ⊢
      rw [serves]
      exact serves
    | ended ended =>
      dsimp only at ended ⊢
      rw [ended]
      exact ended
  | threadless held =>
    cases done with
    | struck serves => cases held.symm.trans serves
    | ended ended => cases held.symm.trans ended
  | turn serves served =>
    cases done with
    | struck same unlinked =>
      cases serves.symm.trans same
      rw [Session.serve_unlinked unlinked] at served
      obtain ⟨rfl, rfl⟩ := Prod.mk.inj served
      exact serves.symm
    | ended ended => cases serves.symm.trans ended
  | part serves leaves =>
    cases done with
    | struck same unlinked =>
      cases serves.symm.trans same
      cases leaves with
      | refused held | closed held | overflowed held => cases unlinked.symm.trans held
    | ended ended => cases serves.symm.trans ended
  | enroll | collect => rfl

theorem Act.result?_stays (act : Act options first services last) (reliable : first.1.Reliable)
    (told : first.1.result? = some result) : last.1.result? = some result := by
  unfold result?
  rw [act.progress_of_done (reliable.done told)]
  exact told

theorem Reliable.tells (reliable : launch.Reliable) (told : launch.result? = some result) : Tells launch.id result := by
  have known := reliable.known
  have orderly := reliable.orderly
  unfold Orderly at orderly
  have done := reliable.done told
  unfold result? at told
  cases done with
  | @struck session serves unlinked =>
    rw [serves] at told known orderly
    have crashed := orderly.2.2
    rw [unlinked] at crashed
    have same : session.result? = some result := told
    unfold Session.result? at same
    rw [crashed, show session.id = launch.id from known] at same
    obtain rfl := Option.some.inj same
    exact .crashed
  | @ended session ended =>
    rw [ended] at told known orderly
    obtain ⟨named, _, tells⟩ := known
    have same : session.result? = some result := told
    unfold Session.result? at same
    rcases orderly with ⟨_, crashed⟩ | ⟨outcome, _, finished, _⟩
    · rw [crashed, named] at same
      obtain rfl := Option.some.inj same
      exact .crashed
    · rw [finished] at same
      obtain rfl := Option.some.inj same
      exact tells outcome finished

end Launch

end Manager

end SharedRecords
