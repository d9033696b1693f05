import SharedRecords.Proofs.Manager.Starts
import SharedRecords.Proofs.Manager.Transparent

/-!
The calls of a manager among all that happens. A call that nobody else comes between is one of the many ways
in which the requests of its sessions can come, so whatever holds of them all holds of the manager.
-/

namespace SharedRecords.Manager

open Region (Handle Spot)

variable {manager : Manager}

/-- How many sessions a call that starts one asks for: none before the schema is there. -/
def admits (manager : Manager) : Nat := if manager.schema.isSome then 1 else 0

namespace Runtime

variable {options : Session.Options} {runtime later : Runtime} {error : Session.Error}

structure Represents (options : Session.Options) (runtime : Runtime) (manager : Manager) : Prop where
  resources : runtime.resources = manager.resources
  options : manager.options = options
  sessions : manager.sessions = runtime.launches.filterMap Launch.listed?

def Follows (options : Session.Options) (runtime : Runtime) (manager : Manager) : Prop :=
  ∃ later, Reaches options runtime later ∧ later.Represents options manager ∧ later.clients = runtime.clients

def Continues (options : Session.Options) (runtime : Runtime) (asked : Nat) (manager : Manager) : Prop :=
  ∃ record later, Runs options runtime record later ∧ later.Represents options manager ∧
    later.clients = runtime.clients ∧ later.launches.length = runtime.launches.length + asked ∧
    (runtime.Quiet → later.Quiet)

theorem Continues.follows {asked : Nat} (continues : runtime.Continues options asked manager) :
    runtime.Follows options manager := by
  obtain ⟨record, later, runs, represents, clients, _⟩ := continues
  exact ⟨later, runs.reaches, represents, clients⟩

theorem Runs.of_launch {launch moved : Launch} {resources after : Session.Resources} {record : List Session.Service}
    (run : Recorded (Launch.Act options) (launch, resources) record (moved, after)) (before rest : List Launch)
    (clients : List Spot) :
    Runs options ⟨resources, before ++ launch :: rest, clients⟩ record ⟨after, before ++ moved :: rest, clients⟩ := by
  let placed (state : Launch × Session.Resources) : Runtime := ⟨state.2, before ++ state.1 :: rest, clients⟩
  have each (first : Launch × Session.Resources) (services : List Session.Service)
      (last : Launch × Session.Resources) (act : Launch.Act options first services last) :
      Act options (placed first) services (placed last) := .move before rest clients act
  exact Recorded.lift placed each run

/-- One session after another. -/
theorem Runs.cons {launch moved : Launch} {launches others before : List Launch}
    {resources between after : Session.Resources} {clients : List Spot} {record : List Session.Service}
    (first : Launch.Runs options (launch, resources) (moved, between))
    (rest : Runs options ⟨between, (before ++ [moved]) ++ launches, clients⟩ record
      ⟨after, (before ++ [moved]) ++ others, clients⟩) :
    ∃ record, Runs options ⟨resources, before ++ launch :: launches, clients⟩ record
      ⟨after, before ++ moved :: others, clients⟩ := by
  simp only [List.append_assoc, List.singleton_append] at rest
  obtain ⟨_, run⟩ := first
  exact ⟨_, (of_launch run before launches clients).trans rest⟩

theorem Represents.stays (represents : runtime.Represents options manager) : runtime.Continues options 0 manager :=
  ⟨[], runtime, .refl runtime, represents, rfl, rfl, fun quiet => quiet⟩

theorem Represents.starts {launch moved : Launch} {outcome : Except Session.Error Channel.Address × Manager}
    (represents : runtime.Represents options manager)
    (arrives : Act options runtime [] { runtime with launches := runtime.launches ++ [launch] })
    (starts : manager.Starts launch outcome moved) : runtime.Continues options 1 outcome.2 := by
  obtain ⟨shared, rfl, listed⟩ := represents
  obtain ⟨record, run⟩ := starts.runs
  have run := Runs.of_launch run runtime.launches [] runtime.clients
  rw [← shared] at run
  refine ⟨_, _, (Recorded.single arrives).trans run, ⟨rfl, starts.options, ?_⟩, rfl, ?_, fun quiet => ?_⟩
  · rw [starts.sessions, listed, List.filterMap_append]
    cases come : moved.listed? with
    | none =>
      rw [List.filterMap_cons_none come]
      rfl
    | some session =>
      rw [List.filterMap_cons_some come]
      rfl
  · exact List.length_append
  · exact List.forall_mem_append.mpr ⟨quiet, List.forall_mem_singleton.mpr starts.quiet⟩

theorem spawn_continues (represents : runtime.Represents options manager) :
    runtime.Continues options manager.admits manager.spawn.2 := by
  unfold admits
  cases held : manager.schema with
  | none =>
    unfold spawn
    rw [held]
    exact represents.stays
  | some schema =>
    obtain ⟨moved, starts⟩ := spawn_starts (Option.ne_none_iff_exists'.mpr ⟨schema, held⟩)
    exact represents.starts (.order runtime _) starts

theorem spawnWith_continues (represents : runtime.Represents options manager) (request response : Handle) :
    runtime.Continues options manager.admits (manager.spawnWith request response).2 := by
  unfold admits
  cases held : manager.schema with
  | none =>
    unfold spawnWith
    rw [held]
    exact represents.stays
  | some schema =>
    obtain ⟨moved, starts⟩ := spawnWith_starts (Option.ne_none_iff_exists'.mpr ⟨schema, held⟩) request response
    exact represents.starts (.bring runtime _ _ _) starts

theorem quiet_of_forall₂ {launches moved : List Launch}
    (each : List.Forall₂ (fun launch later => launch.Quiet → later.Quiet) launches moved)
    (quiet : ∀ launch ∈ launches, launch.Quiet) : ∀ launch ∈ moved, launch.Quiet := by
  induction each with
  | nil => exact quiet
  | cons still _ ih =>
    obtain ⟨first, others⟩ := List.forall_mem_cons.mp quiet
    exact List.forall_mem_cons.mpr ⟨still first, ih others⟩

theorem serveEach_runs (options : Session.Options) (before launches : List Launch)
    (proper : ∀ launch ∈ launches, launch.Proper) (resources : Session.Resources) (clients : List Spot) :
    ∃ record moved, Runs options ⟨resources, before ++ launches, clients⟩ record
        ⟨(serveEach resources (launches.filterMap Launch.listed?)).2, before ++ moved, clients⟩ ∧
      moved.filterMap Launch.listed? = (serveEach resources (launches.filterMap Launch.listed?)).1 ∧
      List.Forall₂ (fun launch later => launch.Quiet → later.Quiet) launches moved := by
  induction launches generalizing before resources with
  | nil => exact ⟨[], [], .refl _, rfl, .nil⟩
  | cons launch launches ih =>
    obtain ⟨first, others⟩ := List.forall_mem_cons.mp proper
    cases held : launch.listed? with
    | none =>
      obtain ⟨_, moved, run, listed, quiet⟩ := ih (before ++ [launch]) others resources
      obtain ⟨record, run⟩ := Runs.cons (.refl _) run
      rw [List.filterMap_cons_none held]
      refine ⟨record, launch :: moved, run, ?_, .cons (fun quiet => quiet) quiet⟩
      rw [List.filterMap_cons_none held]
      exact listed
    | some session =>
      obtain ⟨later, turn, served, still⟩ := Launch.turn_runs options first.served held .zero resources
      obtain ⟨_, moved, run, listed, quiet⟩ := ih (before ++ [later]) others (session.serve .zero resources).2
      obtain ⟨record, run⟩ := Runs.cons turn run
      rw [List.filterMap_cons_some held]
      refine ⟨record, later :: moved, run, ?_, .cons still quiet⟩
      rw [List.filterMap_cons_some served, listed]
      rfl

theorem serveRound_continues (represents : runtime.Represents options manager) (sound : runtime.Sound) :
    runtime.Continues options 0 manager.serveRound := by
  obtain ⟨record, moved, run, listed, each⟩ :=
    serveEach_runs options [] runtime.launches sound.proper runtime.resources runtime.clients
  rw [← represents.sessions] at run listed
  have round : serveEach runtime.resources manager.sessions = serveEach manager.resources manager.sessions := by
    rw [represents.resources]
  rw [round] at run listed
  exact ⟨record, ⟨manager.serveRound.resources, moved, runtime.clients⟩, run, ⟨rfl, represents.options, listed.symm⟩,
    rfl, each.length_eq.symm, quiet_of_forall₂ each⟩

theorem collect_runs (options : Session.Options) (keep : Session → Bool) (before launches : List Launch)
    (resources : Session.Resources) (clients : List Spot) :
    ∃ record moved, Runs options ⟨resources, before ++ launches, clients⟩ record ⟨resources, before ++ moved, clients⟩ ∧
      moved.filterMap Launch.listed? = (launches.filterMap Launch.listed?).filter keep ∧
      List.Forall₂ (fun launch later => launch.Quiet → later.Quiet) launches moved := by
  induction launches generalizing before with
  | nil => exact ⟨[], [], .refl _, rfl, .nil⟩
  | cons launch launches ih =>
    cases held : launch.listed? with
    | none =>
      obtain ⟨_, moved, run, listed, quiet⟩ := ih (before ++ [launch])
      obtain ⟨record, run⟩ := Runs.cons (.refl _) run
      refine ⟨record, launch :: moved, run, ?_, .cons (fun quiet => quiet) quiet⟩
      rw [List.filterMap_cons_none held, List.filterMap_cons_none held]
      exact listed
    | some session =>
      rw [List.filterMap_cons_some held]
      by_cases kept : keep session = true
      · obtain ⟨_, moved, run, listed, quiet⟩ := ih (before ++ [launch])
        obtain ⟨record, run⟩ := Runs.cons (.refl _) run
        refine ⟨record, launch :: moved, run, ?_, .cons (fun quiet => quiet) quiet⟩
        rw [List.filterMap_cons_some held, List.filter_cons_of_pos kept, listed]
      · let off := { launch with listing := .collected }
        have taken : Launch.Runs options (launch, resources) (off, resources) :=
          .single (.collect (Launch.listing_of_listed? held) resources)
        obtain ⟨_, moved, run, listed, quiet⟩ := ih (before ++ [off])
        obtain ⟨record, run⟩ := Runs.cons taken run
        refine ⟨record, off :: moved, run, ?_, .cons (fun quiet => quiet) quiet⟩
        rw [List.filterMap_cons_none rfl, List.filter_cons_of_neg kept, listed]

theorem collect_continues (represents : runtime.Represents options manager) (keep : Session → Bool) :
    runtime.Continues options 0 { manager with sessions := manager.sessions.filter keep } := by
  obtain ⟨record, moved, run, listed, each⟩ :=
    collect_runs options keep [] runtime.launches runtime.resources runtime.clients
  rw [← represents.sessions] at listed
  exact ⟨record, _, run, ⟨represents.resources, represents.options, listed.symm⟩, rfl, each.length_eq.symm,
    quiet_of_forall₂ each⟩

theorem join_continues (represents : runtime.Represents options manager) {id : SessionId}
    {result : Except Session.Error Session.Summary} {after : Manager}
    (joined : manager.join id = some (result, after)) :
    runtime.Continues options 0 after := by
  unfold join at joined
  split at joined
  · obtain ⟨_, rfl⟩ := Prod.mk.inj (Option.some.inj joined)
    exact represents.stays
  · obtain ⟨_, _, same⟩ := Option.map_eq_some_iff.mp joined
    obtain ⟨_, rfl⟩ := Prod.mk.inj same
    exact collect_continues represents _

theorem reap_continues (represents : runtime.Represents options manager) : runtime.Continues options 0 manager.reap.2 :=
  collect_continues represents _

/-! ## Any run of requests -/

/-- The calls of a manager are runs of requests, and a start that fails leaves all as it was. -/
structure CallsReach (options : Session.Options) (runtime : Runtime) (manager : Manager) : Prop where
  spawn : runtime.Follows options manager.spawn.2
  spawnWith : ∀ request response, runtime.Follows options (manager.spawnWith request response).2
  round : runtime.Follows options manager.serveRound
  join : ∀ id result after, manager.join id = some (result, after) → runtime.Follows options after
  reap : runtime.Follows options manager.reap.2
  spawn_failed : ∀ error, manager.spawn.1 = .error error → manager.Restored manager.spawn.2
  spawnWith_failed : ∀ request response error, (manager.spawnWith request response).1 = .error error →
    manager.Restored (manager.spawnWith request response).2

/-- However the requests of sessions and clients come one after another, all regions are those of clients and
those held for sessions, each once. What is held for a session was allocated for it, what was given back was
there, and nothing was given back for a session over regions of a client. With no session being started or
torn down, all regions are those of clients and two of each session that has not terminated. -/
theorem Reaches.regions_accounted {resources : Session.Resources} (reaches : Reaches options (opened resources) runtime)
    (sound : resources.pool.Sound) :
    runtime.resources.pool.Lists (runtime.clients.map some ++ runtime.held.map runtime.resources.pool.spot?) ∧
    (∀ launch ∈ runtime.launches, launch.Proper ∧ (launch.owned = false → launch.returned = [])) ∧
    (runtime.AtRest → runtime.Accounted) ∧
    ∀ manager, runtime.Represents options manager → runtime.CallsReach options manager := by
  have still := Reaches.sound reaches (opened_sound sound)
  refine ⟨still.balanced.lists, fun launch member => ?_, still.accounted, fun manager represents => ?_⟩
  · have proper := still.proper launch member
    exact ⟨proper, proper.foreign_returned⟩
  · have pool : manager.pool.Sound := by
      unfold Manager.pool
      rw [← represents.resources]
      exact still.balanced.sound
    exact {
      spawn := (spawn_continues represents).follows
      spawnWith := fun request response => (spawnWith_continues represents request response).follows
      round := (serveRound_continues represents still).follows
      join := fun _ _ _ joined => (join_continues represents joined).follows
      reap := (reap_continues represents).follows
      spawn_failed := fun _ failed => spawn_restored pool failed
      spawnWith_failed := fun _ _ _ failed => spawnWith_restored pool failed }

end Runtime

def clientRegion : Session.Resources := { oneTable.resources with pool := (oneTable.pool.allocate 64).2 }

def startedLaunch : Launch × Session.Resources :=
  let request (state : Launch × Session.Resources) := state.1.advance oneTable.options state.2
  request (request (request (request (request (.ordered ⟨1⟩, clientRegion)))))

theorem startedLaunch_recorded : Recorded (Launch.Act oneTable.options) (.ordered ⟨1⟩, clientRegion) []
    ({ startedLaunch.1 with listing := .listed }, startedLaunch.2) := by
  have request (state : Launch × Session.Resources) :
      Recorded (Launch.Act oneTable.options) state [] (state.1.advance oneTable.options state.2) :=
    .single (.advance _ _)
  have enrolled : Launch.Act oneTable.options startedLaunch []
      ({ startedLaunch.1 with listing := .listed }, startedLaunch.2) :=
    .enroll startedLaunch.1 trivial rfl startedLaunch.2
  exact (((((request _).trans (request _)).trans (request _)).trans (request _)).trans (request _)).tail enrolled

theorem oneTable_accounted : oneTable.pool.Sound ∧ ∃ runtime,
    Runtime.Reaches oneTable.options (.opened oneTable.resources) runtime ∧ runtime.AtRest ∧ runtime.Accounted ∧
      runtime.clients = [.numbered 1] ∧
      runtime.unterminated.map (·.holding) = [⟨.anonymous 2, .anonymous 3, true⟩] := by
  have bare : Region.Pool.Bare .empty := nofun
  have sound : oneTable.pool.Sound := Region.Pool.anonymous_sound bare none
  have allocated : oneTable.resources.pool.allocate 64 = (.ok (.anonymous 1), clientRegion.pool) := rfl
  have allocates : Runtime.Step oneTable.options (.opened oneTable.resources) ⟨clientRegion, [], [.numbered 1]⟩ :=
    .allocate allocated rfl
  have orders : Runtime.Step oneTable.options ⟨clientRegion, [], [.numbered 1]⟩
      ⟨clientRegion, [.ordered ⟨1⟩], [.numbered 1]⟩ :=
    .order _ _
  have run := Runtime.Runs.of_launch startedLaunch_recorded [] [] [.numbered 1]
  have reaches : Runtime.Reaches oneTable.options (.opened oneTable.resources) _ :=
    .head allocates (.head orders run.reaches)
  have rest : Runtime.AtRest ⟨startedLaunch.2, [{ startedLaunch.1 with listing := .listed }], [.numbered 1]⟩ := by
    intro launch member
    obtain rfl := List.mem_singleton.mp member
    exact nofun
  obtain ⟨_, _, accounted, _⟩ := reaches.regions_accounted sound
  exact ⟨sound, _, reaches, rest, accounted rest, rfl, rfl⟩

end SharedRecords.Manager
