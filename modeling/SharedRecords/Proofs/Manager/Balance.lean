import SharedRecords.Proofs.Manager.Bookkeeping
import SharedRecords.Proofs.Manager.RuntimeCalls

/-!
The counters of a manager against the sessions there have been and the requests they took. However starts,
requests and ends come one after another, with none of them under way the counters add up.
-/

namespace SharedRecords.Manager

open Session (Service)

namespace Launch

def requests (launch : Launch) : Nat := launch.progress.session?.elim 0 (·.requests)

def isActive (launch : Launch) : Bool :=
  match launch.progress with
  | .started session | .closing session .. | .ended session => !session.state.isTerminal
  | .asking | .halfway _ | .equipped _ | .watching .. | .attached .. | .leaving _ => false

/-- The store has crashed under a request of the session. -/
def isStruck (launch : Launch) : Bool :=
  match launch.progress with
  | .started session => session.hasEnded
  | .asking | .halfway _ | .equipped _ | .watching .. | .attached .. | .closing .. | .ended _ | .leaving _ => false

/-- How the session ended, as whoever collects it is told. -/
def result? (launch : Launch) : Option (Except Session.Error Session.Summary) :=
  launch.progress.session?.bind Session.result?

def hasClosed (launch : Launch) : Bool := launch.result?.any fun result => result.isOk

def hasBroken (launch : Launch) : Bool :=
  launch.result?.any fun
    | .ok _ => false
    | .error error => error.isViolation

def HasCrashed (launch : Launch) : Prop := ∃ id, launch.result? = some (.error (.crashed id))

variable {launch : Launch}

theorem Orderly.requests_eq (orderly : launch.Orderly) : launch.account.requests = launch.requests := by
  obtain ⟨id, owned, progress, listing, granted, returned⟩ := launch
  unfold account requests
  cases progress with
  | asking | halfway | equipped | watching | leaving | closing => rfl
  | attached session channel => exact orderly.2.1.symm
  | started session =>
    dsimp only [Progress.account]
    split <;> rfl
  | ended session =>
    dsimp only [Progress.account]
    split <;> rfl

theorem Orderly.isActive_eq (orderly : launch.Orderly) : launch.account.isActive = launch.isActive := by
  obtain ⟨id, owned, progress, listing, granted, returned⟩ := launch
  unfold account isActive
  cases progress with
  | asking | halfway | equipped | watching | attached | leaving => rfl
  | started session =>
    obtain ⟨_, serving, _⟩ := orderly
    dsimp only [Progress.account]
    rw [serving]
    split <;> rfl
  | closing session result rest =>
    obtain ⟨closing, _⟩ := orderly
    dsimp only
    rw [closing]
    rfl
  | ended session =>
    dsimp only [Progress.account]
    rcases orderly with ⟨closing, crashed⟩ | ⟨result, terminated, finished, _⟩
    · rw [closing, crashed]
      rfl
    · rw [terminated, finished]
      rfl

theorem isStruck_eq (launch : Launch) : launch.account.isStruck = launch.isStruck := by
  obtain ⟨id, owned, progress, listing, granted, returned⟩ := launch
  unfold account isStruck
  cases progress with
  | asking | halfway | equipped | watching | attached | leaving | closing => rfl
  | started session =>
    dsimp only [Progress.account]
    cases session.hasEnded <;> rfl
  | ended session =>
    dsimp only [Progress.account]
    split <;> rfl

theorem Quiet.hasFailed_eq (quiet : launch.Quiet) : launch.account.hasFailed = !launch.account.hasStarted := by
  obtain ⟨id, owned, progress, listing, granted, returned⟩ := launch
  unfold account
  cases progress with
  | asking | halfway | equipped | watching | attached | closing => exact quiet.elim
  | leaving => rfl
  | started session =>
    dsimp only [Progress.account]
    split <;> rfl
  | ended session =>
    dsimp only [Progress.account]
    split <;> rfl

theorem Orderly.ends_eq (orderly : launch.Orderly) (quiet : launch.Quiet) (sane : ¬ launch.HasCrashed) :
    launch.account.hasBroken = launch.hasBroken ∧ launch.account.hasClosed = launch.hasClosed ∧
      launch.isStruck = false := by
  obtain ⟨id, owned, progress, listing, granted, returned⟩ := launch
  cases progress with
  | asking | halfway | equipped | watching | attached | closing => exact quiet.elim
  | leaving => exact ⟨rfl, rfl, rfl⟩
  | started session =>
    obtain ⟨_, _, stands⟩ := orderly
    cases held : session.link with
    | none =>
      rw [held] at stands
      have crashed : session.result? = some (.error (.crashed session.id)) := by
        unfold Session.result?
        rw [stands]
        rfl
      exact absurd ⟨session.id, crashed⟩ sane
    | some link =>
      rw [held] at stands
      have unended : session.ending = none := stands
      have silent : session.result? = none := congrArg (Option.map _) unended
      unfold account hasBroken hasClosed isStruck result?
      dsimp only [Progress.session?, Option.bind_some]
      rw [Progress.account_of_serving unended, silent]
      exact ⟨rfl, rfl, congrArg Option.isSome unended⟩
  | ended session =>
    rcases orderly with ⟨closing, crashed⟩ | ⟨result, terminated, finished, farewell⟩
    · have crashed : session.result? = some (.error (.crashed session.id)) := by
        unfold Session.result?
        rw [crashed]
        rfl
      exact absurd ⟨session.id, crashed⟩ sane
    · have told : session.result? = some result := congrArg (Option.map _) finished
      have account : (Progress.ended session).account = .terminated session.requests session.hasAborted := by
        dsimp only [Progress.account]
        rw [finished]
      unfold Launch.account hasBroken hasClosed result?
      dsimp only [Progress.session?, Option.bind_some]
      rw [account, told]
      cases farewell with
      | asked kept summary =>
        rw [kept]
        exact ⟨rfl, rfl, rfl⟩
      | broken aborted cause =>
        rw [aborted]
        exact ⟨rfl, rfl, rfl⟩

end Launch

namespace Runtime

/-- The counters, the sessions that were asked for and the record of all that was served agree. -/
structure Balanced (runtime : Runtime) (record : List Service) : Prop where
  attempts : runtime.resources.metrics.spawned + runtime.resources.metrics.spawnFailures = runtime.launches.length
  active : runtime.resources.metrics.active = runtime.launches.countP Launch.isActive
  /-- Every counter of operations is the number of responses under its name. -/
  answers : ∀ opcode status,
    runtime.resources.metrics.count opcode status = record.countP (Service.answers opcode status)
  requests : record.length = Number.total (runtime.launches.map Launch.requests)
  /-- Every request is counted, but for those under which the store has crashed. -/
  taken : runtime.resources.metrics.served + runtime.resources.metrics.protocolErrors +
    runtime.launches.countP Launch.isStruck = record.length
  /-- A session under which the store has crashed does not tell what ended it. -/
  ends : (∀ launch ∈ runtime.launches, ¬ launch.HasCrashed) →
    runtime.resources.metrics.protocolErrors = runtime.launches.countP Launch.hasBroken ∧
    runtime.resources.metrics.count .close .ok = runtime.launches.countP Launch.hasClosed ∧
    runtime.resources.metrics.served + runtime.resources.metrics.protocolErrors = record.length

/-- The calls of a manager are such runs: a call that starts a session asks for one if the schema is
there, and no other call does. -/
structure CallsRun (options : Session.Options) (runtime : Runtime) (manager : Manager) : Prop where
  spawn : runtime.Continues options manager.admits manager.spawn.2
  spawnWith : ∀ request response, runtime.Continues options manager.admits (manager.spawnWith request response).2
  round : runtime.Continues options 0 manager.serveRound
  join : ∀ id result after, manager.join id = some (result, after) → runtime.Continues options 0 after
  reap : runtime.Continues options 0 manager.reap.2

variable {options : Session.Options} {runtime : Runtime} {record : List Service} {resources : Session.Resources}

theorem weigh_toNat {holds : Account → Bool} {launch : Launch → Bool}
    (same : ∀ one ∈ runtime.launches, holds one.account = launch one) :
    (runtime.weigh fun account => (holds account).toNat) = runtime.launches.countP launch := by
  unfold weigh
  rw [Number.total_toNat fun one : Launch => holds one.account]
  exact List.countP_congr fun one member => by rw [same one member]

theorem weigh_none (runtime : Runtime) : (runtime.weigh fun _ => 0) = 0 := by
  have none : (runtime.weigh fun _ => 0) = runtime.launches.countP fun _ => false :=
    @weigh_toNat runtime (fun _ => false) (fun _ => false) fun _ _ => rfl
  exact none.trans (List.countP_eq_zero.mpr fun _ _ => nofun)

theorem Quiet.attempts (quiet : runtime.Quiet) :
    (runtime.weigh fun account => account.hasStarted.toNat) + (runtime.weigh fun account => account.hasFailed.toNat) =
      runtime.launches.length := by
  have started : (runtime.weigh fun account => account.hasStarted.toNat) =
      runtime.launches.countP fun launch => launch.account.hasStarted := weigh_toNat fun _ _ => rfl
  rw [started, weigh_toNat fun one member => (quiet one member).hasFailed_eq,
    List.length_eq_countP_add_countP fun launch : Launch => launch.account.hasStarted]
  simp only [Bool.not_eq_true, Bool.decide_eq_false]

theorem Runs.orderly (runs : Runs options (opened resources) record runtime) (sound : resources.pool.Sound) :
    runtime.Orderly :=
  (runs.reads sound Account.fits_requests rfl).1

/-- All requests that were taken were answered, or ended a session, or the store crashed under them. -/
theorem Runs.taken (runs : Runs options (opened resources) record runtime) (sound : resources.pool.Sound)
    (fresh : resources.metrics = .empty) :
    runtime.resources.metrics.served + runtime.resources.metrics.protocolErrors +
      runtime.launches.countP Launch.isStruck = record.length := by
  obtain ⟨_, struck⟩ := runs.reads sound Account.fits_struck (by rw [fresh]; rfl)
  rw [weigh_toNat fun launch _ => launch.isStruck_eq] at struck
  omega

/-- Where the store has crashed under no session, each of them that has ended tells how. -/
theorem Runs.ends (runs : Runs options (opened resources) record runtime) (sound : resources.pool.Sound)
    (fresh : resources.metrics = .empty) (quiet : runtime.Quiet)
    (sane : ∀ launch ∈ runtime.launches, ¬ launch.HasCrashed) :
    runtime.resources.metrics.protocolErrors = runtime.launches.countP Launch.hasBroken ∧
    runtime.resources.metrics.count .close .ok = runtime.launches.countP Launch.hasClosed ∧
    runtime.resources.metrics.served + runtime.resources.metrics.protocolErrors = record.length := by
  have each (launch : Launch) (member : launch ∈ runtime.launches) :=
    (runs.orderly sound launch member).ends_eq (quiet launch member) (sane launch member)
  obtain ⟨_, broken⟩ := runs.reads sound Account.fits_broken (by rw [fresh]; rfl)
  obtain ⟨_, closed⟩ := runs.reads sound Account.fits_closed (by rw [fresh]; rfl)
  rw [weigh_toNat fun launch member => (each launch member).1] at broken
  rw [weigh_toNat fun launch member => (each launch member).2.1] at closed
  have none : runtime.launches.countP Launch.isStruck = 0 :=
    List.countP_eq_zero.mpr fun launch member => Bool.eq_false_iff.mp (each launch member).2.2
  have taken := runs.taken sound fresh
  exact ⟨by omega, by omega, by omega⟩

theorem Runs.balanced (runs : Runs options (opened resources) record runtime) (sound : resources.pool.Sound)
    (fresh : resources.metrics = .empty) (quiet : runtime.Quiet) : runtime.Balanced record where
  attempts := by
    obtain ⟨_, spawned⟩ := runs.reads sound Account.fits_spawned (by rw [fresh]; rfl)
    obtain ⟨_, failures⟩ := runs.reads sound Account.fits_failures (by rw [fresh]; rfl)
    have attempts := quiet.attempts
    omega
  active := by
    obtain ⟨orderly, active⟩ := runs.reads sound Account.fits_active (by rw [fresh]; rfl)
    rw [weigh_toNat fun launch member => (orderly launch member).isActive_eq] at active
    exact active
  answers opcode status := by
    obtain ⟨_, answers⟩ := runs.reads sound (Account.fits_answers opcode status) (by rw [fresh]; rfl)
    rw [weigh_none] at answers
    omega
  requests := by
    obtain ⟨orderly, requests⟩ := runs.reads sound Account.fits_requests rfl
    have each : runtime.weigh Account.requests = Number.total (runtime.launches.map Launch.requests) :=
      congrArg Number.total (List.map_congr_left fun launch member => (orderly launch member).requests_eq)
    omega
  taken := runs.taken sound fresh
  ends := runs.ends sound fresh quiet

/-- However the sessions, the calls that start them and the clients act, no more sessions have terminated than
were counted. With none being started or torn down, every session that was asked for is counted as started or as
failed, those that have not terminated are those that are active, operations are counted under the statuses that
were published for them, and every request that was taken is accounted for. The calls of the manager are such
runs. -/
theorem Runs.metrics_add_up (runs : Runs options (opened resources) record runtime) (sound : resources.pool.Sound)
    (fresh : resources.metrics = .empty) :
    0 ≤ runtime.resources.metrics.active ∧ (runtime.Quiet → runtime.Balanced record) ∧
    ∀ manager, runtime.Represents options manager → runtime.CallsRun options manager := by
  refine ⟨?_, runs.balanced sound fresh, fun manager represents => ?_⟩
  · obtain ⟨_, active⟩ := runs.reads sound Account.fits_active (by rw [fresh]; rfl)
    omega
  · have still := runs.reaches.sound (opened_sound sound)
    exact {
      spawn := spawn_continues represents
      spawnWith := spawnWith_continues represents
      round := serveRound_continues represents still
      join := fun _ _ _ joined => join_continues represents joined
      reap := reap_continues represents }

end Runtime

/-- A session that is listed and serves over regions of its own. -/
def listedLaunch : Launch := { startedLaunch.1 with listing := .listed }

def listedSession : Session := listedLaunch.progress.session?.get rfl

/-- What is there once the client of the session has raised a byte that is no opcode. -/
def wrongFlag : Session.Resources := startedLaunch.2.setMemory (startedLaunch.2.memory.setFlag 1 0x07)

def abortedLaunch : Launch × Session.Resources :=
  let leaving := listedSession.counted.note (.published .aborted)
  (listedLaunch.moves (.closing leaving.unmapped (.error (.violation (.unknownOpcode 0x07))) leaving.holding.owns),
    wrongFlag.aborted (listedSession.link.get rfl).channel)

/-- The aborted session has given back both regions and its context. -/
def endedLaunch : Launch × Session.Resources :=
  let request (state : Launch × Session.Resources) := state.1.advance oneTable.options state.2
  request (request (request abortedLaunch))

theorem abortedLaunch_act :
    Launch.Act oneTable.options (listedLaunch, wrongFlag) [⟨0x07, some .aborted⟩] abortedLaunch := by
  have serves : listedLaunch.progress = .started listedSession := rfl
  have refuses : Session.Refuses (listedSession.link.get rfl) wrongFlag.memory (.unknownOpcode 0x07) :=
    .unknown rfl (by decide) (by decide)
  have leaves : listedSession.Leaves .zero wrongFlag (listedSession.counted.note (.published .aborted))
      (.error (.violation (.unknownOpcode 0x07))) (wrongFlag.aborted (listedSession.link.get rfl).channel) :=
    .refused rfl refuses
  exact .part serves leaves

theorem endedLaunch_recorded :
    Recorded (Launch.Act oneTable.options) (listedLaunch, wrongFlag) [⟨0x07, some .aborted⟩] endedLaunch := by
  have request (state : Launch × Session.Resources) :
      Recorded (Launch.Act oneTable.options) state [] (state.1.advance oneTable.options state.2) :=
    .single (.advance _ _)
  exact (((Recorded.single abortedLaunch_act).trans (request _)).trans (request _)).trans (request _)

/-- A session was started, its client made a mistake, and the session was aborted. -/
def afterAbort : Runtime := ⟨endedLaunch.2, [endedLaunch.1], clientRegion.pool.spots⟩

theorem afterAbort_balanced : clientRegion.pool.Sound ∧ clientRegion.metrics = .empty ∧
    Runtime.Runs oneTable.options (.opened clientRegion) [⟨0x07, some .aborted⟩] afterAbort ∧
    afterAbort.Quiet ∧ afterAbort.Balanced [⟨0x07, some .aborted⟩] ∧
    afterAbort.launches.map (·.hasBroken) = [true] ∧ afterAbort.resources.metrics.active = 0 := by
  let spots := clientRegion.pool.spots
  have orders : Runtime.Act oneTable.options (.opened clientRegion) [] ⟨clientRegion, [.ordered ⟨1⟩], spots⟩ :=
    .order _ _
  have starts := Runtime.Runs.of_launch startedLaunch_recorded [] [] spots
  have raises : Runtime.Act oneTable.options ⟨startedLaunch.2, [listedLaunch], spots⟩ []
      ⟨wrongFlag, [listedLaunch], spots⟩ :=
    .others (.meanwhile (Region.Memory.next_setFlag _ _ _) rfl) rfl rfl
  have ends := Runtime.Runs.of_launch endedLaunch_recorded [] [] spots
  have runs : Runtime.Runs oneTable.options (.opened clientRegion) [⟨0x07, some .aborted⟩] afterAbort :=
    (((Recorded.single orders).trans starts).tail raises).trans ends
  have quiet : afterAbort.Quiet := List.forall_mem_singleton.mpr trivial
  have bare : Region.Pool.Bare .empty := nofun
  have sound : clientRegion.pool.Sound := (Region.Pool.anonymous_sound bare none).allocate 64
  exact ⟨sound, rfl, runs, quiet, (runs.metrics_add_up sound rfl).2.1 quiet, rfl, rfl⟩

end SharedRecords.Manager
