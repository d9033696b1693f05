import SharedRecords.Database
import SharedRecords.Proofs.Manager.Accounts
import SharedRecords.Proofs.Manager.Opening
import SharedRecords.Proofs.Manager.Starts
import SharedRecords.Proofs.Manager.Transparent

/-!
Connects that fail. A session that cannot be started leaves nothing behind. A client that cannot map the regions
of a session that has started leaves that session, and with it both regions.
-/

namespace SharedRecords

open Region (Spot)

namespace Session

variable {id : SessionId} {holding : Holding} {options : Options} {resources later : Resources} {session : Session}

theorem start_metrics (id : SessionId) (holding : Holding) (options : Options) (resources : Resources) :
    (start id holding options resources).2.2.metrics = resources.metrics := by
  unfold start
  dsimp only
  rcases resources.pool.map holding.request with ⟨error | request, mapped⟩
  · rfl
  · dsimp only
    rcases mapped.map holding.response with ⟨error | response, pool⟩
    · rfl
    · exact open?_metrics _ _ _

theorem start_holding (began : start id holding options resources = (none, session, later)) :
    session.holding = holding := by
  unfold start at began
  dsimp only at began
  rcases first : resources.pool.map holding.request with ⟨error | request, mapped⟩
  · rw [first] at began
    cases congrArg Prod.fst began
  · rw [first] at began
    dsimp only at began
    rcases second : mapped.map holding.response with ⟨error | response, pool⟩
    · rw [second] at began
      cases congrArg Prod.fst began
    · rw [second] at began
      exact (open?_of_none began).2.1

end Session

namespace Manager

variable {manager later : Manager} {address : Channel.Address} {holding : Session.Holding}

theorem release_metrics (resources : Session.Resources) (handles : List Region.Handle) :
    (handles.foldl Session.Resources.release resources).metrics = resources.metrics := by
  induction handles generalizing resources with
  | nil => rfl
  | cons handle rest ih => exact ih _

theorem launch_active (manager : Manager) (holding : Session.Holding) :
    (manager.launch holding).2.metrics.active =
      manager.metrics.active + (manager.launch holding).1.isOk.toNat := by
  have uncounted :=
    Session.start_metrics ⟨UInt64.ofNat (manager.launched + 1)⟩ holding manager.options manager.resources
  unfold launch
  dsimp only
  rcases started : Session.start _ holding manager.options manager.resources with ⟨_ | error, session, resources⟩
  · rw [started] at uncounted
    exact congrArg (·.active + 1) uncounted
  · rw [started] at uncounted
    have discarded :=
      (discard_eq { manager with launched := manager.launched + 1, resources := resources } holding).1
    have active := congrArg (·.metrics.active) discarded
    dsimp only [metrics] at active ⊢
    rw [active, release_metrics]
    exact (congrArg (·.active) uncounted).trans (Int.add_zero _).symm

theorem allocatePair_owned (allocated : manager.allocatePair = (.ok holding, later)) : holding.owned = true := by
  unfold allocatePair at allocated
  dsimp only at allocated
  rcases first : manager.pool.allocate manager.options.capacity with ⟨error | request, pool⟩
  · rw [first] at allocated
    cases congrArg Prod.fst allocated
  · rw [first] at allocated
    dsimp only at allocated
    rcases second : pool.allocate manager.options.capacity with ⟨error | response, last⟩
    · rw [second] at allocated
      cases congrArg Prod.fst allocated
    · rw [second] at allocated
      obtain rfl := Except.ok.inj (congrArg Prod.fst allocated)
      rfl

theorem allocatePair_active (manager : Manager) :
    manager.allocatePair.2.metrics.active = manager.metrics.active := by
  unfold allocatePair
  dsimp only
  rcases manager.pool.allocate manager.options.capacity with ⟨error | request, pool⟩
  · rfl
  · dsimp only
    rcases pool.allocate manager.options.capacity with ⟨error | response, last⟩ <;> rfl

theorem spawn_active (manager : Manager) :
    manager.spawn.2.metrics.active = manager.metrics.active + manager.spawn.1.isOk.toNat := by
  have waiting := manager.allocatePair_active
  unfold spawn
  cases manager.schema with
  | none => exact (Int.add_zero _).symm
  | some schema =>
    dsimp only
    rcases allocated : manager.allocatePair with ⟨error | holding, between⟩
    · rw [allocated] at waiting
      exact waiting.trans (Int.add_zero _).symm
    · rw [allocated] at waiting
      have counted := between.launch_active holding
      dsimp only at waiting counted ⊢
      rw [counted, waiting]

theorem spawn_serves (spawned : manager.spawn = (.ok address, later)) :
    ∃ session link, later.sessions = manager.sessions ++ [session] ∧ session.state = .serving ∧
      session.link = some link ∧ session.holding.owned = true := by
  unfold spawn at spawned
  cases installed : manager.schema with
  | none =>
    rw [installed] at spawned
    cases congrArg Prod.fst spawned
  | some schema =>
    rw [installed] at spawned
    dsimp only at spawned
    rcases allocated : manager.allocatePair with ⟨error | holding, between⟩
    · rw [allocated] at spawned
      cases congrArg Prod.fst spawned
    · rw [allocated] at spawned
      have owned := allocatePair_owned allocated
      have same : between.sessions = manager.sessions := by
        have only := congrArg Manager.sessions manager.allocatePair_eq
        rw [allocated] at only
        exact only
      unfold launch at spawned
      dsimp only at spawned
      rcases began : Session.start ⟨UInt64.ofNat (between.launched + 1)⟩ holding between.options between.resources
        with ⟨_ | error, session, resources⟩
      · rw [began] at spawned
        obtain ⟨link, _, _, started⟩ := Session.start_of_none began
        obtain ⟨_, rfl⟩ := Prod.mk.inj spawned
        refine ⟨session.enter .serving, link, ?_, rfl, started.held, ?_⟩
        · rw [← same]
          rfl
        · rw [← owned, ← Session.start_holding began]
          rfl
      · rw [began] at spawned
        cases congrArg Prod.fst spawned

theorem Launch.Proper.held_of_serving {launch : Launch} {session : Session} {link : Session.Link}
    (proper : launch.Proper) (quiet : launch.Quiet) (listed : launch.listed? = some session)
    (linked : session.link = some link) (owned : session.holding.owned = true) :
    launch.held = [session.holding.request, session.holding.response] := by
  have stands := proper.stands
  unfold Launch.Stands at stands
  unfold Launch.Quiet at quiet
  rw [Launch.listed?_of_listed (Launch.listing_of_listed? listed)] at listed
  unfold Launch.held
  cases come : launch.progress with
  | asking | halfway | equipped | watching | attached | closing =>
    rw [come] at quiet
    exact quiet.elim
  | leaving =>
    rw [come] at listed
    contradiction
  | ended =>
    rw [come] at listed stands
    obtain rfl := Option.some.inj listed
    cases stands.symm.trans linked
  | started =>
    rw [come] at listed
    obtain rfl := Option.some.inj listed
    exact if_pos owned

theorem spawn_adds (sound : manager.pool.Sound) (spawned : manager.spawn = (.ok address, later)) :
    ∃ session request response, later.sessions = manager.sessions ++ [session] ∧ session.state = .serving ∧
      manager.pool.AddsPair later.pool request response := by
  have installed : manager.schema ≠ none := by
    intro missing
    unfold spawn at spawned
    rw [missing] at spawned
    cases congrArg Prod.fst spawned
  obtain ⟨session, link, sessions, serving, linked, owned⟩ := spawn_serves spawned
  obtain ⟨launch, starts⟩ := spawn_starts installed
  rw [spawned] at starts
  have begun : Launch.Kept manager.pool.spots [] (.ordered manager.nextId) manager.resources :=
    ⟨Launch.ordered_proper _, sound.balanced⟩
  have kept := starts.runs.kept begun
  have listed : launch.listed? = some session := by
    have same := starts.sessions.symm.trans sessions
    have only : launch.listed?.toList = [session] := List.append_cancel_left same
    cases held : launch.listed? with
    | none => rw [held] at only; contradiction
    | some other => rw [held] at only; exact congrArg some (List.singleton_inj.mp only)
  have held := kept.proper.held_of_serving starts.quiet listed linked owned
  have balanced := kept.balanced
  rw [List.append_nil, held] at balanced
  obtain ⟨request, response, adds⟩ := balanced.addsPair
  exact ⟨session, request, response, sessions, serving, adds⟩

end Manager

theorem Client.connect_retains (pool : Region.Pool) (address : Channel.Address) (options : Client.Options) :
    pool.Retains (Client.connect pool address options).2 := by
  have first := pool.map_retains address.request
  unfold Client.connect Client.openChannel
  rcases asked : pool.map address.request with ⟨error | request, mapped⟩
  · rw [asked] at first
    exact first
  · rw [asked] at first
    have second := mapped.map_retains address.response
    dsimp only at first second ⊢
    rcases told : mapped.map address.response with ⟨error | response, last⟩
    · rw [told] at second
      exact first.trans second
    · rw [told] at second
      exact first.trans second

theorem Client.connect_error {pool later : Region.Pool} {address : Channel.Address} {options : Client.Options}
    {error : Client.Error} (failed : Client.connect pool address options = (.error error, later)) :
    ∃ reason, error = .region reason := by
  unfold Client.connect at failed
  rcases opened : Client.openChannel pool address options.poller options.pace with ⟨reason | channel, last⟩
  · rw [opened] at failed
    exact ⟨reason, (Except.error.inj (congrArg Prod.fst failed)).symm⟩
  · rw [opened] at failed
    cases congrArg Prod.fst failed

namespace Database

variable {database later : Database} {error : Error}

/-- The same regions are there, the same sessions are listed, and as many are counted as active. -/
structure Untouched (database later : Database) : Prop where
  regions : ∀ spot, later.manager.pool.isLive spot = database.manager.pool.isLive spot
  sessions : later.manager.sessions = database.manager.sessions
  active : later.manager.metrics.active = database.manager.metrics.active

/-- One more session serves that nobody is connected to, over two more regions. -/
structure Stranded (database later : Database) : Prop where
  sessions : ∃ session : Session, later.manager.sessions = database.manager.sessions ++ [session] ∧
    session.state = .serving
  regions : ∃ request response, database.manager.pool.AddsPair later.manager.pool request response
  active : later.manager.metrics.active = database.manager.metrics.active + 1

theorem Stranded.touched (stranded : database.Stranded later) : ¬ database.Untouched later := by
  intro untouched
  have active := untouched.active
  rw [stranded.active] at active
  omega

/-- A connect that fails before its session has started leaves nothing behind. One that fails since the client
cannot map the regions leaves the session and both regions. -/
theorem connect_leaves (sound : database.manager.pool.Sound) (failed : database.connect = (.error error, later)) :
    (∃ reason, error = .session reason) ∧ database.Untouched later ∨
      (∃ reason, error = .client (.region reason)) ∧ database.Stranded later := by
  have active := database.manager.spawn_active
  unfold connect at failed
  rcases spawned : database.manager.spawn with ⟨reason | address, between⟩
  · rw [spawned] at failed active
    obtain ⟨same, rfl⟩ := Prod.mk.inj failed
    have restored := Manager.spawn_restored sound (congrArg Prod.fst spawned)
    rw [spawned] at restored
    exact .inl ⟨⟨reason, (Except.error.inj same).symm⟩, restored.regions, restored.sessions,
      active.trans (Int.add_zero _)⟩
  · rw [spawned] at failed active
    obtain ⟨session, request, response, sessions, serving, adds⟩ := Manager.spawn_adds sound spawned
    have retains := Client.connect_retains between.pool address database.clientOptions
    unfold Manager.connect at failed
    dsimp only at failed
    rcases attempt : Client.connect between.pool address database.clientOptions with ⟨reason | client, pool⟩
    · rw [attempt] at failed retains
      obtain ⟨same, rfl⟩ := Prod.mk.inj failed
      obtain ⟨cause, rfl⟩ := Client.connect_error attempt
      exact .inr ⟨⟨cause, (Except.error.inj same).symm⟩, ⟨session, sessions, serving⟩,
        ⟨request, response, adds.retains retains⟩, active⟩
    · rw [attempt] at failed
      cases congrArg Prod.fst failed

/-- A pool that grants both regions and lets the session map them, and then refuses the client. -/
def refused : Database :=
  let pool := Manager.oneTable.pool
  ⟨Manager.oneTable.setPool { pool with verdicts := [none, none, none, none, some (.io "no such device")] }, {}⟩

theorem refused_leaves : refused.manager.pool.Sound ∧ ∃ error later, refused.connect = (.error error, later) ∧
    ((∃ reason, error = .session reason) ∧ refused.Untouched later ∨
      (∃ reason, error = .client (.region reason)) ∧ refused.Stranded later) := by
  have bare : Region.Pool.Bare .empty := nofun
  have sound : refused.manager.pool.Sound := (Region.Pool.anonymous_sound bare none).setVerdicts _
  exact ⟨sound, .client (.region (.io "no such device")), _, rfl, connect_leaves sound rfl⟩

/-- The connect has failed, and the session it has started is listed and serves over two regions. -/
theorem refused_stranded : ∃ later,
    refused.connect = (.error (.client (.region (.io "no such device"))), later) ∧ ¬ refused.Untouched later ∧
      refused.manager.sessionIds = [] ∧ later.manager.sessionIds = [⟨1⟩] ∧
      later.manager.state? ⟨1⟩ = some .serving ∧ refused.manager.metrics.active = 0 ∧
      later.manager.metrics.active = 1 ∧ refused.manager.pool.liveCount = 0 ∧ later.manager.pool.liveCount = 2 := by
  refine ⟨_, rfl, fun untouched => ?_, rfl, rfl, rfl, rfl, rfl, rfl, rfl⟩
  have active : (1 : Int) = 0 := untouched.active
  contradiction

end Database

end SharedRecords
