import SharedRecords.Manager.Basic
import SharedRecords.Proofs.Region.Ledger
import SharedRecords.Proofs.Session.Parting

/-!
A session from the call that starts it to its end, one request to the pool of regions at a time. Between two
of them anybody else may act. What a session holds was allocated for it, and whatever it holds no more was
given back once.
-/

namespace SharedRecords

open Region (Handle Spot)

def Session.Holding.owns (holding : Holding) : List Handle :=
  if holding.owned then [holding.request, holding.response] else []

namespace Manager

inductive Progress where
  | asking
  /-- One of the two regions is allocated. -/
  | halfway (request : Handle)
  /-- Both regions are there, and none is mapped. -/
  | equipped (holding : Session.Holding)
  | watching (holding : Session.Holding) (request : Region.Mapping)
  /-- Both regions are mapped, and no context is open. -/
  | attached (session : Session) (channel : Channel.ServerEnd)
  /-- The session serves, or the store has crashed under it. -/
  | started (session : Session)
  /-- The session has published its last response, and these regions are still to be given back. -/
  | closing (session : Session) (result : Except Session.Error Session.Summary) (rest : List Handle)
  | ended (session : Session)
  /-- The session does not start, and these regions are still to be given back. -/
  | leaving (rest : List Handle)

namespace Progress

/-- The regions that are allocated and not given back. -/
def held : Progress → List Handle
  | asking | ended _ => []
  | halfway request => [request]
  | equipped holding | watching holding _ => holding.owns
  | attached session _ | started session => session.holding.owns
  | closing _ _ rest | leaving rest => rest

def session? : Progress → Option Session
  | attached session _ | started session | closing session _ _ | ended session => some session
  | asking | halfway _ | equipped _ | watching .. | leaving _ => none

def HasStarted : Progress → Prop
  | started _ | closing .. | ended _ => True
  | asking | halfway _ | equipped _ | watching .. | attached .. | leaving _ => False

end Progress

/-- Whether the manager lists the session. -/
inductive Listing where
  | unlisted
  | listed
  | collected
  deriving DecidableEq

/-- The launch of a session, up to its end, with all that was allocated for it and all that was given back, the latest last. -/
structure Launch where
  id : SessionId
  owned : Bool
  progress : Progress
  listing : Listing
  granted : List Handle
  returned : List (Handle × Except Region.Error Unit)

namespace Launch

/-- A session is to be started, over regions of its own. -/
def ordered (id : SessionId) : Launch := ⟨id, true, .asking, .unlisted, [], []⟩

/-- A session is to be started, over regions of a client. -/
def brought (id : SessionId) (request response : Handle) : Launch :=
  ⟨id, false, .equipped ⟨request, response, false⟩, .unlisted, [], []⟩

def held (launch : Launch) : List Handle := launch.progress.held

def moves (launch : Launch) (progress : Progress) : Launch := { launch with progress }

def grant (launch : Launch) (handle : Handle) (progress : Progress) : Launch :=
  { launch with progress, granted := launch.granted ++ [handle] }

/-- The start is given up, and counted as a failure. -/
def fail (launch : Launch) (rest : List Handle) (resources : Session.Resources) : Launch × Session.Resources :=
  (launch.moves (.leaving rest), { resources with metrics := resources.metrics.spawnFailed })

def giveBack (launch : Launch) (handle : Handle) (progress : Progress) (resources : Session.Resources) :
    Launch × Session.Resources :=
  ({ launch with progress, returned := launch.returned ++ [(handle, (resources.pool.release handle).1)] },
    resources.release handle)

/-- The next request of a session that does not serve. -/
def advance (options : Session.Options) (launch : Launch) (resources : Session.Resources) :
    Launch × Session.Resources :=
  match launch.progress with
  | .asking =>
    match resources.pool.allocate options.capacity with
    | (.error _, pool) => launch.fail [] { resources with pool }
    | (.ok request, pool) => (launch.grant request (.halfway request), { resources with pool })
  | .halfway request =>
    match resources.pool.allocate options.capacity with
    | (.error _, pool) => launch.fail [request] { resources with pool }
    | (.ok response, pool) =>
      (launch.grant response (.equipped ⟨request, response, true⟩), { resources with pool })
  | .equipped holding =>
    match resources.pool.map holding.request with
    | (.error _, pool) => launch.fail holding.owns { resources with pool }
    | (.ok request, pool) => (launch.moves (.watching holding request), { resources with pool })
  | .watching holding request =>
    match resources.pool.map holding.response with
    | (.error _, pool) => launch.fail holding.owns { resources with pool }
    | (.ok response, pool) =>
      let (channel, memory) := Channel.ServerEnd.attach request response options.poller pool.memory
      (launch.moves (.attached ((Session.create launch.id holding).enter .attached) channel),
        { resources with pool := pool.setMemory memory })
  | .attached session channel =>
    match session.open? channel resources with
    | (some _, _, later) => launch.fail session.holding.owns later
    | (none, opened, later) =>
      (launch.moves (.started (opened.enter .serving)), { later with metrics := later.metrics.sessionSpawned })
  | .closing session result (handle :: rest) =>
    launch.giveBack handle (.closing (session.note (.released handle)) result rest) resources
  | .closing session result [] =>
    let (ended, later) := session.closeContext result resources
    (launch.moves (.ended ended), later)
  | .leaving (handle :: rest) => launch.giveBack handle (.leaving rest) resources
  | .started _ | .ended _ | .leaving [] => (launch, resources)

/-- What a session does between two requests of others. -/
inductive Step (options : Session.Options) : Launch → Session.Resources → Launch → Session.Resources → Prop where
  | advance (launch : Launch) (resources : Session.Resources) :
      Step options launch resources (launch.advance options resources).1 (launch.advance options resources).2
  /-- No thread could be had for the session. -/
  | threadless {launch : Launch} {holding : Session.Holding} (held : launch.progress = .equipped holding)
      (resources : Session.Resources) :
      Step options launch resources (launch.fail holding.owns resources).1 (launch.fail holding.owns resources).2
  | turn {launch : Launch} {session later : Session} {elapsed : Duration} {resources after : Session.Resources}
      (serves : launch.progress = .started session) (served : session.serve elapsed resources = (later, after))
      (serving : later.state = .serving) :
      Step options launch resources (launch.moves (.started later)) after
  /-- A turn that ends in a teardown, up to where the session gives back what it holds. -/
  | part {launch : Launch} {session leaving : Session} {result : Except Session.Error Session.Summary}
      {elapsed : Duration} {resources between : Session.Resources}
      (serves : launch.progress = .started session)
      (served : session.serve elapsed resources = leaving.teardown result between)
      (writes : resources.Writes between) (holding : leaving.holding = session.holding) :
      Step options launch resources (launch.moves (.closing leaving.unmapped result leaving.holding.owns)) between
  /-- The manager takes the session into its list. -/
  | enroll (launch : Launch) (started : launch.progress.HasStarted) (unlisted : launch.listing = .unlisted)
      (resources : Session.Resources) :
      Step options launch resources { launch with listing := .listed } resources
  /-- The manager takes the session off its list, to wait for its end if need be. -/
  | collect {launch : Launch} (listed : launch.listing = .listed) (resources : Session.Resources) :
      Step options launch resources { launch with listing := .collected } resources

/-- What holds at the point that a launch has come to. -/
def Stands (launch : Launch) : Prop :=
  match launch.progress with
  | .asking | .halfway _ => launch.owned = true ∧ launch.returned = [] ∧ launch.listing = .unlisted
  | .equipped holding | .watching holding _ =>
    holding.owned = launch.owned ∧ launch.returned = [] ∧ launch.listing = .unlisted
  | .attached session _ => session.holding.owned = launch.owned ∧ launch.returned = [] ∧ launch.listing = .unlisted
  | .started session => session.holding.owned = launch.owned ∧ launch.returned = [] ∧ session.state = .serving
  | .closing session .. | .ended session => session.link = none
  | .leaving _ => launch.listing = .unlisted

/-- What was allocated is held or was given back, and nothing was allocated for a session over regions of a
client. -/
structure Proper (launch : Launch) : Prop where
  kept : launch.granted = launch.returned.map (·.1) ++ launch.held
  clean : ∀ entry ∈ launch.returned, entry.2 = .ok ()
  foreign : launch.owned = false → launch.granted = []
  stands : launch.Stands

/-- A launch and a pool in which all regions are accounted for. -/
structure Kept (clients : List Spot) (others : List Handle) (launch : Launch) (resources : Session.Resources) :
    Prop where
  proper : launch.Proper
  balanced : resources.pool.Balanced clients (launch.held ++ others)

variable {options : Session.Options} {launch later : Launch} {resources after : Session.Resources}
  {clients : List Spot} {others : List Handle} {progress : Progress} {handle : Handle} {rest : List Handle}
  {pool : Region.Pool} {metrics : Metrics} {backend : Store.Backend}

theorem ordered_proper (id : SessionId) : (ordered id).Proper := ⟨rfl, nofun, nofun, rfl, rfl, rfl⟩

theorem brought_proper (id : SessionId) (request response : Handle) : (brought id request response).Proper :=
  ⟨rfl, nofun, fun _ => rfl, rfl, rfl, rfl⟩

theorem Proper.foreign_returned (proper : launch.Proper) (foreign : launch.owned = false) : launch.returned = [] := by
  have kept := proper.kept
  rw [proper.foreign foreign] at kept
  exact List.map_eq_nil_iff.mp (List.append_eq_nil_iff.mp kept.symm).1

theorem Proper.moves (proper : launch.Proper) (held : progress.held = launch.held)
    (stands : (launch.moves progress).Stands) : (launch.moves progress).Proper := by
  refine ⟨?_, proper.clean, proper.foreign, stands⟩
  show launch.granted = launch.returned.map (·.1) ++ progress.held
  rw [held]
  exact proper.kept

theorem Proper.grant (proper : launch.Proper) (owned : launch.owned = true)
    (held : progress.held = launch.held ++ [handle]) (stands : (launch.grant handle progress).Stands) :
    (launch.grant handle progress).Proper := by
  refine ⟨?_, proper.clean, ?_, stands⟩
  · show launch.granted ++ [handle] = launch.returned.map (·.1) ++ progress.held
    rw [held, proper.kept, List.append_assoc]
  · intro foreign
    cases owned.symm.trans foreign

theorem Kept.fail (proper : launch.Proper) (held : launch.held = rest) (unlisted : launch.listing = .unlisted)
    (balanced : resources.pool.Balanced clients (rest ++ others)) :
    Kept clients others (launch.fail rest resources).1 (launch.fail rest resources).2 :=
  ⟨proper.moves held.symm unlisted, balanced⟩

theorem Kept.giveBack (kept : Kept clients others launch resources) (held : launch.held = handle :: rest)
    (left : progress.held = rest)
    (stands : (launch.giveBack handle progress resources).1.Stands) :
    Kept clients others (launch.giveBack handle progress resources).1
      (launch.giveBack handle progress resources).2 := by
  obtain ⟨proper, balanced⟩ := kept
  rw [held] at balanced
  obtain ⟨released, remaining⟩ := balanced.give
  refine ⟨⟨?_, ?_, proper.foreign, stands⟩, ?_⟩
  · show launch.granted = (launch.returned ++ [(handle, (resources.pool.release handle).1)]).map (·.1) ++ progress.held
    rw [proper.kept, held, left, List.map_append, List.append_assoc]
    rfl
  · intro entry member
    rcases List.mem_append.mp member with old | new
    · exact proper.clean entry old
    · rw [List.mem_singleton.mp new]
      exact released
  · show (resources.pool.release handle).2.Balanced clients (progress.held ++ others)
    rw [left]
    exact remaining

theorem Kept.grant {capacity : Nat} (kept : Kept clients others launch resources) (owned : launch.owned = true)
    (given : resources.pool.allocate capacity = (.ok handle, pool)) (held : progress.held = launch.held ++ [handle])
    (stands : (launch.grant handle progress).Stands) :
    Kept clients others (launch.grant handle progress) { resources with pool } := by
  refine ⟨kept.proper.grant owned held stands, ?_⟩
  have taken := kept.balanced.take given
  show pool.Balanced clients (progress.held ++ others)
  rw [held, List.append_assoc]
  exact taken.perm List.perm_middle.symm

theorem Kept.map (kept : Kept clients others launch resources) (held : progress.held = launch.held)
    (stands : (launch.moves progress).Stands) (mapped : (resources.pool.map handle).2 = pool) :
    Kept clients others (launch.moves progress) { resources with pool } := by
  refine ⟨kept.proper.moves held stands, ?_⟩
  show pool.Balanced clients (progress.held ++ others)
  rw [held, ← mapped]
  exact kept.balanced.map handle

theorem Kept.write (kept : Kept clients others launch resources) (writes : resources.Writes after)
    (held : progress.held = launch.held) (stands : (launch.moves progress).Stands) :
    Kept clients others (launch.moves progress) after := by
  obtain ⟨memory, next, pool⟩ := writes
  refine ⟨kept.proper.moves held stands, ?_⟩
  show after.pool.Balanced clients (progress.held ++ others)
  rw [held, pool]
  exact kept.balanced.retains (Region.Pool.retains_of_same memory _) (kept.balanced.sound.setMemory next)

theorem advance_kept (options : Session.Options) (kept : Kept clients others launch resources) :
    Kept clients others (launch.advance options resources).1 (launch.advance options resources).2 := by
  obtain ⟨id, owned, progress, listing, granted, returned⟩ := launch
  have stands := kept.proper.stands
  have held := kept.balanced
  unfold advance
  cases progress with
  | asking =>
    obtain ⟨owned, fresh, unlisted⟩ := stands
    dsimp only
    rcases given : resources.pool.allocate options.capacity with ⟨error | request, pool⟩
    · exact .fail kept.proper rfl unlisted (held.refused given)
    · exact kept.grant owned given rfl ⟨owned, fresh, unlisted⟩
  | halfway request =>
    obtain ⟨owned, fresh, unlisted⟩ := stands
    dsimp only
    rcases given : resources.pool.allocate options.capacity with ⟨error | response, pool⟩
    · exact .fail kept.proper rfl unlisted (held.refused given)
    · exact kept.grant owned given rfl ⟨owned.symm, fresh, unlisted⟩
  | equipped holding =>
    dsimp only
    have mapped := held.map holding.request
    rcases attempt : resources.pool.map holding.request with ⟨error | request, pool⟩
    · rw [attempt] at mapped
      exact .fail kept.proper rfl stands.2.2 mapped
    · exact kept.map rfl stands (congrArg Prod.snd attempt)
  | watching holding request =>
    dsimp only
    have mapped := held.map holding.response
    rcases attempt : resources.pool.map holding.response with ⟨error | response, pool⟩
    · rw [attempt] at mapped
      exact .fail kept.proper rfl stands.2.2 mapped
    · have between : Kept clients others (moves _ (.watching holding request)) { resources with pool } :=
        kept.map rfl stands (congrArg Prod.snd attempt)
      refine between.write ⟨_, ?_, rfl⟩ rfl stands
      exact (Region.Memory.next_setFlag _ _ _).trans (Region.Memory.next_setFlag _ _ _)
  | attached session channel =>
    dsimp only
    have pool := session.open?_pool channel resources
    rcases opening : session.open? channel resources with ⟨_ | error, opened, later⟩
    · obtain ⟨_, holding, same⟩ := Session.open?_of_none opening
      refine kept.write ⟨resources.memory, rfl, same⟩ (congrArg Session.Holding.owns holding) ?_
      refine ⟨?_, stands.2.1, rfl⟩
      exact (congrArg Session.Holding.owned holding).trans stands.1
    · rw [opening] at pool
      refine .fail kept.proper rfl stands.2.2 ?_
      rw [pool]
      exact held
  | started session | ended session => exact kept
  | closing session result rest =>
    cases rest with
    | nil =>
      refine kept.write ⟨resources.memory, rfl, session.closeContext_pool result resources⟩ rfl ?_
      exact session.closeContext_link resources stands result
    | cons handle rest => exact kept.giveBack rfl rfl stands
  | leaving rest =>
    cases rest with
    | nil => exact kept
    | cons handle rest => exact kept.giveBack rfl rfl stands

/-- Whatever a session does, all regions are accounted for. -/
theorem Step.kept (step : Step options launch resources later after) (kept : Kept clients others launch resources) :
    Kept clients others later after := by
  have stands := kept.proper.stands
  unfold Stands at stands
  cases step with
  | advance => exact advance_kept options kept
  | threadless held =>
    rw [held] at stands
    have balanced := kept.balanced
    have same : launch.held = _ := congrArg Progress.held held
    rw [same] at balanced
    exact .fail kept.proper same stands.2.2 balanced
  | turn serves served serving =>
    rw [serves] at stands
    obtain ⟨writes, holding⟩ := Session.serve_of_serving served serving
    have held : launch.held = _ := congrArg Progress.held serves
    refine kept.write writes ?_ ⟨?_, stands.2.1, serving⟩
    · rw [held]
      exact congrArg Session.Holding.owns holding
    · exact (congrArg Session.Holding.owned holding).trans stands.1
  | part serves served writes holding =>
    have held : launch.held = _ := congrArg Progress.held serves
    refine kept.write writes ?_ rfl
    rw [held]
    exact congrArg Session.Holding.owns holding
  | enroll started unlisted =>
    refine ⟨⟨kept.proper.kept, kept.proper.clean, kept.proper.foreign, ?_⟩, kept.balanced⟩
    unfold Stands
    dsimp only
    cases come : launch.progress with
    | asking | halfway | equipped | watching | attached | leaving =>
      rw [come] at started
      exact started.elim
    | started | closing | ended =>
      rw [come] at stands
      exact stands
  | collect listed =>
    refine ⟨⟨kept.proper.kept, kept.proper.clean, kept.proper.foreign, ?_⟩, kept.balanced⟩
    unfold Stands
    dsimp only
    -- only a session that has started can be on the list
    cases come : launch.progress with
    | asking | halfway | equipped | watching | attached =>
      rw [come] at stands
      cases stands.2.2.symm.trans listed
    | leaving =>
      rw [come] at stands
      cases stands.symm.trans listed
    | started | closing | ended =>
      rw [come] at stands
      exact stands

/-! ## At rest -/

/-- Neither is the session being started nor is it being torn down. -/
def AtRest (launch : Launch) : Prop :=
  match launch.progress with
  | .started _ => launch.listing ≠ .unlisted
  | .ended session => launch.listing ≠ .unlisted ∧ session.state = .terminated
  | .leaving rest => rest = []
  | .asking | .halfway _ | .equipped _ | .watching .. | .attached .. | .closing .. => False

def unterminated? (launch : Launch) : Option Session :=
  if launch.owned then launch.progress.session?.filter (!·.state.isTerminal) else none

/-- A session that has not terminated has both regions, and all others have given back what was allocated. -/
inductive Settled (launch : Launch) : Prop where
  | serves {session : Session} (serves : launch.progress = .started session) (returned : launch.returned = [])
      (granted : launch.granted = session.holding.owns)
  | done (stopped : ∀ session, launch.progress ≠ .started session)
      (returned : launch.returned = launch.granted.map fun handle => (handle, .ok ()))

theorem Proper.held_of_rest (proper : launch.Proper) (rest : launch.AtRest) :
    launch.held = launch.unterminated?.elim [] fun session => [session.holding.request, session.holding.response] := by
  obtain ⟨id, owned, progress, listing, granted, returned⟩ := launch
  have stands := proper.stands
  cases progress with
  | asking | halfway | equipped | watching | attached | closing => exact rest.elim
  | leaving handles =>
    obtain rfl : handles = [] := rest
    cases owned <;> rfl
  | started session =>
    obtain ⟨same, _, serving⟩ := stands
    change session.holding.owned = owned at same
    show session.holding.owns = _
    unfold unterminated? Session.Holding.owns
    dsimp only [Progress.session?]
    cases owned with
    | false => simp only [same, Bool.false_eq_true, if_false, Option.elim_none]
    | true =>
      simp only [same, if_true, Option.filter_some, serving, Session.State.isTerminal]
      rfl
  | ended session =>
    obtain ⟨_, terminated⟩ := rest
    show [] = _
    unfold unterminated?
    dsimp only [Progress.session?]
    cases owned with
    | false => rfl
    | true =>
      simp only [if_true, Option.filter_some, terminated, Session.State.isTerminal]
      rfl

theorem Proper.settled (proper : launch.Proper) (rest : launch.AtRest) : launch.Settled := by
  obtain ⟨kept, clean, _, stands⟩ := proper
  have returned (none : launch.held = []) : launch.returned = launch.granted.map fun handle => (handle, .ok ()) := by
    rw [kept, none, List.append_nil, List.map_map]
    refine (List.map_id _).symm.trans (List.map_congr_left fun entry member => ?_)
    exact Prod.ext rfl (clean entry member)
  unfold AtRest at rest
  unfold Stands at stands
  cases come : launch.progress with
  | asking | halfway | equipped | watching | attached | closing =>
    rw [come] at rest
    exact rest.elim
  | leaving handles =>
    rw [come] at rest
    have none : launch.held = handles := congrArg Progress.held come
    exact .done (fun _ same => nomatch come.symm.trans same) (returned (none.trans rest))
  | ended session =>
    exact .done (fun _ same => nomatch come.symm.trans same) (returned (congrArg Progress.held come))
  | started session =>
    rw [come] at stands
    refine .serves come stands.2.1 ?_
    rw [kept, stands.2.1]
    exact congrArg Progress.held come

end Launch

end Manager

end SharedRecords
