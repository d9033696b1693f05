import SharedRecords.Proofs.Manager.Recorded
import SharedRecords.Proofs.Session.Lifecycle

/-!
The calls that start a session, and its turns, as runs of its requests. A session that fails to start leaves
all regions and the list of sessions as they were.
-/

namespace SharedRecords

open Region (Handle Spot)

/-- What is left of a teardown: the regions to be given back, and then the context. -/
def Session.windUp (session : Session) (result : Except Error Summary) :
    List Handle → Resources → Session × Resources
  | [], resources => session.closeContext result resources
  | handle :: rest, resources => (session.note (.released handle)).windUp result rest (resources.release handle)

theorem Session.teardown_eq_windUp (session : Session) (result : Except Error Summary) (resources : Resources) :
    session.teardown result resources = session.unmapped.windUp result session.holding.owns resources := by
  obtain ⟨_, ⟨_, _, owned⟩⟩ := session
  cases owned with
  | false => rfl
  | true => rfl

namespace Manager

namespace Launch

variable {options : Session.Options} {launch later : Launch} {resources after : Session.Resources}
  {holding : Session.Holding} {session : Session} {rest : List Handle} {elapsed : Duration}

theorem Runs.advance (options : Session.Options) (launch : Launch) (resources : Session.Resources) :
    Runs options (launch, resources) (launch.advance options resources) :=
  .single (.advance launch resources)

theorem leaving_runs (options : Session.Options) (launch : Launch) (leaving : launch.progress = .leaving rest)
    (resources : Session.Resources) :
    ∃ later, Runs options (launch, resources) (later, rest.foldl Session.Resources.release resources) ∧
      later.progress = .leaving [] ∧ later.listing = launch.listing := by
  induction rest generalizing launch resources with
  | nil => exact ⟨launch, .refl _, leaving, rfl⟩
  | cons handle rest ih =>
    have step := Runs.advance options launch resources
    unfold advance at step
    rw [leaving] at step
    obtain ⟨later, runs, gone, same⟩ :=
      ih (launch.giveBack handle (.leaving rest) resources).1 rfl (resources.release handle)
    exact ⟨later, step.trans runs, gone, same⟩

theorem attached_runs (options : Session.Options) (launch : Launch) {channel : Channel.ServerEnd}
    (attached : launch.progress = .attached session channel) (resources : Session.Resources) :
    match session.open? channel resources with
    | (some _, _, after) => Runs options (launch, resources) (launch.fail session.holding.owns after)
    | (none, opened, after) => Runs options (launch, resources)
        (launch.moves (.started (opened.enter .serving)), { after with metrics := after.metrics.sessionSpawned }) := by
  have step := Runs.advance options launch resources
  unfold advance at step
  rw [attached] at step
  dsimp only at step
  rcases opening : session.open? channel resources with ⟨_ | error, opened, after⟩
  · rw [opening] at step
    exact step
  · rw [opening] at step
    exact step

theorem equipped_runs (options : Session.Options) (launch : Launch) (equipped : launch.progress = .equipped holding)
    (resources : Session.Resources) :
    match Session.start launch.id holding options resources with
    | (some _, _, after) => Runs options (launch, resources) (launch.fail holding.owns after)
    | (none, session, after) => Runs options (launch, resources)
        (launch.moves (.started (session.enter .serving)),
          { after with metrics := after.metrics.sessionSpawned }) := by
  have asked := Runs.advance options launch resources
  unfold advance at asked
  rw [equipped] at asked
  unfold Session.start
  dsimp only at asked ⊢
  rcases first : resources.pool.map holding.request with ⟨error | request, mapped⟩
  · rw [first] at asked
    exact asked
  · rw [first] at asked
    have watched := Runs.advance options (launch.moves (.watching holding request))
      { resources with pool := mapped }
    unfold advance at watched
    dsimp only [moves] at asked watched ⊢
    rcases second : mapped.map holding.response with ⟨error | response, pool⟩
    · rw [second] at watched
      exact asked.trans watched
    · rw [second] at watched
      have attached (session : Session) (channel : Channel.ServerEnd) :=
        attached_runs options (launch.moves (.attached session channel)) rfl
      have opened := attached ((Session.create launch.id holding).enter .attached)
        (Channel.ServerEnd.attach request response options.poller pool.memory).1
        { resources with
          pool := pool.setMemory (Channel.ServerEnd.attach request response options.poller pool.memory).2 }
      dsimp only at watched ⊢
      rcases opening : Session.open? _ _ _ with ⟨_ | error, session, after⟩
      · rw [opening] at opened
        exact (asked.trans watched).trans opened
      · rw [opening] at opened
        exact (asked.trans watched).trans opened

theorem closing_runs (options : Session.Options) (launch : Launch) {result : Except Session.Error Session.Summary}
    (closing : launch.progress = .closing session result rest) (resources : Session.Resources) :
    ∃ later, Runs options (launch, resources) (later, (session.windUp result rest resources).2) ∧
      later.progress = .ended (session.windUp result rest resources).1 ∧ later.listing = launch.listing := by
  induction rest generalizing launch session resources with
  | nil =>
    have step := Runs.advance options launch resources
    unfold advance at step
    rw [closing] at step
    exact ⟨_, step, rfl, rfl⟩
  | cons handle rest ih =>
    have step := Runs.advance options launch resources
    unfold advance at step
    rw [closing] at step
    obtain ⟨later, runs, ended, same⟩ :=
      ih (launch.giveBack handle (.closing (session.note (.released handle)) result rest) resources).1 rfl
        (resources.release handle)
    exact ⟨later, step.trans runs, ended, same⟩

theorem serve_runs (options : Session.Options) (launch : Launch) (serves : launch.progress = .started session)
    (serving : session.state = .serving) (elapsed : Duration) (resources : Session.Resources) :
    ∃ later, Runs options (launch, resources) (later, (session.serve elapsed resources).2) ∧
      later.progress.session? = some (session.serve elapsed resources).1 ∧ later.listing = launch.listing ∧
      later.Quiet := by
  have parts := session.serve_parts elapsed resources
  rcases served : session.serve elapsed resources with ⟨later, after⟩
  rw [served] at parts
  generalize same : (later, after) = outcome at parts
  cases parts with
  | goes writes holding state =>
    obtain ⟨rfl, rfl⟩ := Prod.mk.inj same
    exact ⟨_, .single (.turn serves served (state.trans serving)), rfl, rfl, trivial⟩
  | @ends leaving result between leaves =>
    obtain ⟨last, runs, ended, listing⟩ := closing_runs options
      (launch.moves (.closing leaving.unmapped result leaving.holding.owns)) rfl between
    rw [← leaving.teardown_eq_windUp] at runs ended
    have parts : Runs options (launch, resources)
        (launch.moves (.closing leaving.unmapped result leaving.holding.owns), between) :=
      .single (.part serves leaves)
    refine ⟨last, parts.trans runs, ?_, listing, quiet_of_ended ended⟩
    rw [ended]
    rfl

def listed? (launch : Launch) : Option Session :=
  match launch.listing with
  | .listed => launch.progress.session?
  | .unlisted | .collected => none

theorem listed?_of_unlisted (unlisted : launch.listing = .unlisted) : launch.listed? = none := by
  unfold listed?
  rw [unlisted]

theorem listed?_of_listed (listed : launch.listing = .listed) : launch.listed? = launch.progress.session? := by
  unfold listed?
  rw [listed]

theorem listing_of_listed? (held : launch.listed? = some session) : launch.listing = .listed := by
  unfold listed? at held
  split at held
  next listed => exact listed
  all_goals contradiction

def Served (launch : Launch) : Prop :=
  match launch.progress with
  | .started session => session.state = .serving
  | .closing session .. | .ended session => session.link = none
  | .attached .. => launch.listing = .unlisted
  | .asking | .halfway _ | .equipped _ | .watching .. | .leaving _ => True

theorem Proper.served (proper : launch.Proper) : launch.Served := by
  have stands := proper.stands
  unfold Stands at stands
  unfold Served
  cases come : launch.progress with
  | asking | halfway | equipped | watching | leaving => trivial
  | attached | started =>
    rw [come] at stands
    exact stands.2.2
  | closing | ended =>
    rw [come] at stands
    exact stands

theorem turn_runs (options : Session.Options) (stands : launch.Served) (held : launch.listed? = some session)
    (elapsed : Duration) (resources : Session.Resources) :
    ∃ later, Runs options (launch, resources) (later, (session.serve elapsed resources).2) ∧
      later.listed? = some (session.serve elapsed resources).1 ∧ (launch.Quiet → later.Quiet) := by
  have listed := listing_of_listed? held
  unfold Served at stands
  have idle (unlinked : session.link = none) : ∃ later,
      Runs options (launch, resources) (later, (session.serve elapsed resources).2) ∧
        later.listed? = some (session.serve elapsed resources).1 ∧ (launch.Quiet → later.Quiet) := by
    rw [session.serve_unlinked unlinked]
    exact ⟨launch, .refl _, held, fun quiet => quiet⟩
  rw [listed?_of_listed listed] at held
  cases come : launch.progress with
  | asking | halfway | equipped | watching | leaving =>
    rw [come] at held
    contradiction
  | attached =>
    rw [come] at stands
    cases stands.symm.trans listed
  | closing | ended =>
    rw [come] at stands held
    obtain rfl := Option.some.inj held
    exact idle stands
  | started =>
    rw [come] at stands held
    obtain rfl := Option.some.inj held
    obtain ⟨later, runs, served, listing, quiet⟩ := serve_runs options launch come stands elapsed resources
    refine ⟨later, runs, ?_, fun _ => quiet⟩
    rw [listed?_of_listed (listing.trans listed)]
    exact served

end Launch

variable {manager : Manager} {holding : Session.Holding} {launch : Launch}

def nextId (manager : Manager) : SessionId := ⟨UInt64.ofNat (manager.launched + 1)⟩

theorem discard_eq (manager : Manager) (holding : Session.Holding) :
    (manager.discard holding).resources =
        holding.owns.foldl Session.Resources.release manager.countSpawnFailure.resources ∧
      (manager.discard holding).options = manager.options ∧ (manager.discard holding).sessions = manager.sessions := by
  unfold discard Session.Holding.owns
  dsimp only
  cases holding.owned with
  | false => exact ⟨rfl, rfl, rfl⟩
  | true => exact ⟨rfl, rfl, rfl⟩

theorem allocatePair_eq (manager : Manager) :
    manager.allocatePair.2 = { manager with resources := manager.allocatePair.2.resources } := by
  unfold allocatePair
  dsimp only
  split
  · rfl
  · split <;> rfl

/-- What a call that starts a session makes of the manager, with the session as it has come out. A start
that has failed leaves no session, and nothing that is held for one. -/
structure Starts (manager : Manager) (launch : Launch) (outcome : Except Session.Error Channel.Address × Manager)
    (later : Launch) : Prop where
  runs : Launch.Runs manager.options (launch, manager.resources) (later, outcome.2.resources)
  options : outcome.2.options = manager.options
  sessions : outcome.2.sessions = manager.sessions ++ later.listed?.toList
  quiet : later.Quiet
  kept : later.listing ≠ .collected
  failed : ∀ error, outcome.1 = .error error → later.progress = .leaving []

theorem Starts.same_sessions {outcome : Except Session.Error Channel.Address × Manager} {later : Launch}
    {error : Session.Error} (starts : manager.Starts launch outcome later) (failed : outcome.1 = .error error) :
    outcome.2.sessions = manager.sessions := by
  have none : later.listed? = none := by
    unfold Launch.listed?
    rw [starts.failed error failed]
    cases later.listing <;> rfl
  rw [starts.sessions, none]
  exact List.append_nil _

theorem discard_starts {after : Session.Resources}
    (runs : Launch.Runs manager.options (launch, manager.resources) (launch.fail holding.owns after))
    (unlisted : launch.listing = .unlisted) (error : Session.Error) :
    ∃ later, manager.Starts launch
      (.error error, { manager with launched := manager.launched + 1, resources := after }.discard holding) later := by
  obtain ⟨later, leaves, left, same⟩ := Launch.leaving_runs manager.options
    (launch.fail holding.owns after).1 rfl (launch.fail holding.owns after).2
  obtain ⟨resources, options, sessions⟩ :=
    discard_eq { manager with launched := manager.launched + 1, resources := after } holding
  have kept : later.listing ≠ .collected := by
    rw [same.trans unlisted]
    exact nofun
  refine ⟨later, ?_, options, ?_, Launch.quiet_of_left left, kept, fun _ _ => left⟩
  · dsimp only
    rw [resources]
    exact runs.trans leaves
  · rw [Launch.listed?_of_unlisted (same.trans unlisted)]
    exact sessions.trans (List.append_nil _).symm

theorem launch_starts (manager : Manager) (launch : Launch) (equipped : launch.progress = .equipped holding)
    (unlisted : launch.listing = .unlisted) (named : launch.id = manager.nextId) :
    ∃ later, manager.Starts launch (manager.launch holding) later := by
  have started := Launch.equipped_runs manager.options launch equipped manager.resources
  rw [named] at started
  unfold Manager.launch
  unfold nextId at started
  dsimp only
  rcases starting : Session.start ⟨UInt64.ofNat (manager.launched + 1)⟩ holding manager.options manager.resources
    with ⟨_ | error, session, after⟩
  · rw [starting] at started
    have enrolled : Launch.Act manager.options (_, { after with metrics := after.metrics.sessionSpawned }) [] _ :=
      .enroll (launch.moves (.started (session.enter .serving))) trivial unlisted _
    exact ⟨_, started.trans (.single enrolled), rfl, rfl, trivial, nofun, nofun⟩
  · rw [starting] at started
    exact discard_starts started unlisted _

/-- A start for which no thread can be had ends like any other that fails. -/
theorem launchThreadless_starts (manager : Manager) (detail : String) (equipped : launch.progress = .equipped holding)
    (unlisted : launch.listing = .unlisted) :
    ∃ later, manager.Starts launch (manager.launchThreadless holding detail) later :=
  discard_starts (.single (.threadless equipped manager.resources)) unlisted _

theorem spawn_starts (installed : manager.schema ≠ none) :
    ∃ later, manager.Starts (.ordered manager.nextId) manager.spawn later := by
  obtain ⟨schema, held⟩ := Option.ne_none_iff_exists'.mp installed
  have asked := Launch.Runs.advance manager.options (.ordered manager.nextId) manager.resources
  unfold Launch.advance at asked
  dsimp only [Launch.ordered] at asked
  unfold spawn allocatePair
  rw [held]
  dsimp only [pool]
  rcases first : manager.resources.pool.allocate manager.options.capacity with ⟨error | request, between⟩
  · rw [first] at asked
    exact ⟨_, asked, rfl, (List.append_nil _).symm, rfl, nofun, fun _ _ => rfl⟩
  · rw [first] at asked
    let halfway := (Launch.ordered manager.nextId).grant request (.halfway request)
    have again := Launch.Runs.advance manager.options halfway { manager.resources with pool := between }
    unfold Launch.advance at again
    dsimp only [halfway, Launch.grant] at again
    dsimp only
    rcases second : between.allocate manager.options.capacity with ⟨error | response, last⟩
    · rw [second] at again
      obtain ⟨later, runs, left, same⟩ := Launch.leaving_runs manager.options
        (halfway.fail [request] { manager.resources with pool := last }).1 rfl
        (halfway.fail [request] { manager.resources with pool := last }).2
      have kept : later.listing ≠ .collected := by
        rw [same]
        exact nofun
      refine ⟨later, (asked.trans again).trans runs, rfl, ?_, Launch.quiet_of_left left, kept, fun _ _ => left⟩
      rw [Launch.listed?_of_unlisted same]
      exact (List.append_nil _).symm
    · rw [second] at again
      obtain ⟨later, runs, options, sessions, quiet, kept, failed⟩ := (manager.setPool last).launch_starts
        (halfway.grant response (.equipped ⟨request, response, true⟩)) rfl rfl rfl
      exact ⟨later, (asked.trans again).trans runs, options, sessions, quiet, kept, failed⟩

theorem spawnWith_starts (installed : manager.schema ≠ none) (request response : Handle) :
    ∃ later, manager.Starts (.brought manager.nextId request response) (manager.spawnWith request response) later := by
  obtain ⟨schema, held⟩ := Option.ne_none_iff_exists'.mp installed
  unfold spawnWith
  rw [held]
  exact manager.launch_starts (.brought manager.nextId request response) rfl rfl rfl

/-! ## Starts that fail -/

/-- The same regions are there, and the manager lists the same sessions. -/
structure Restored (manager after : Manager) : Prop where
  regions : ∀ spot, after.pool.isLive spot = manager.pool.isLive spot
  sessions : after.sessions = manager.sessions

theorem Starts.restored {outcome : Except Session.Error Channel.Address × Manager} {later : Launch}
    {error : Session.Error} (starts : manager.Starts launch outcome later) (sound : manager.pool.Sound)
    (proper : launch.Proper) (fresh : launch.held = []) (failed : outcome.1 = .error error) :
    manager.Restored outcome.2 := by
  refine ⟨fun spot => ?_, starts.same_sessions failed⟩
  -- with nothing held before and nothing behind, the ledger lists the same regions for the whole call
  have begun : Launch.Kept manager.pool.spots [] launch manager.resources := by
    refine ⟨proper, ?_⟩
    rw [fresh]
    exact sound.balanced
  have nothing : later.held = [] := congrArg Progress.held (starts.failed error failed)
  have lists := (starts.runs.kept begun).balanced.lists
  dsimp only at lists
  rw [nothing] at lists
  have same : spot ∈ manager.pool.spots ↔ outcome.2.resources.pool.isLive spot = true := by
    simpa using lists.live (some spot)
  rw [Region.Pool.mem_spots] at same
  exact (Bool.eq_iff_iff.mpr same).symm

theorem spawn_restored {error : Session.Error} (sound : manager.pool.Sound) (failed : manager.spawn.1 = .error error) :
    manager.Restored manager.spawn.2 := by
  cases held : manager.schema with
  | none =>
    unfold spawn
    rw [held]
    exact ⟨fun _ => rfl, rfl⟩
  | some schema =>
    obtain ⟨later, starts⟩ := spawn_starts (Option.ne_none_iff_exists'.mpr ⟨schema, held⟩)
    exact starts.restored sound (Launch.ordered_proper _) rfl failed

theorem spawnWith_restored {error : Session.Error} {request response : Handle} (sound : manager.pool.Sound)
    (failed : (manager.spawnWith request response).1 = .error error) :
    manager.Restored (manager.spawnWith request response).2 := by
  cases held : manager.schema with
  | none =>
    unfold spawnWith
    rw [held]
    exact ⟨fun _ => rfl, rfl⟩
  | some schema =>
    obtain ⟨later, starts⟩ :=
      spawnWith_starts (Option.ne_none_iff_exists'.mpr ⟨schema, held⟩) request response
    exact starts.restored sound (Launch.brought_proper _ _ _) rfl failed

end Manager

end SharedRecords
