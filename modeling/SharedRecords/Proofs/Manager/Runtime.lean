import Mathlib.Logic.Relation
import SharedRecords.Proofs.Manager.Launch

/-!
All sessions under way, each at its own pace, among clients that allocate regions and give their own ones
back. However their requests come one after another, every region that is there belongs to a client or to a
session, and to one only.
-/

namespace SharedRecords.Manager

open Region (Handle Spot)

/-- All sessions there have been, with what they share and the regions of clients. -/
structure Runtime where
  resources : Session.Resources
  launches : List Launch
  /-- Regions that clients have allocated and not given back. -/
  clients : List Spot

namespace Runtime

/-- Before the first session. All regions there are belong to clients. -/
def opened (resources : Session.Resources) : Runtime := ⟨resources, [], resources.pool.spots⟩

def held (runtime : Runtime) : List Handle := runtime.launches.flatMap Launch.held

def withPool (runtime : Runtime) (pool : Region.Pool) : Runtime :=
  { runtime with resources := { runtime.resources with pool } }

inductive Step (options : Session.Options) : Runtime → Runtime → Prop where
  | move {resources after : Session.Resources} {launch later : Launch} (before rest : List Launch) (clients : List Spot)
      (step : Launch.Step options launch resources later after) :
      Step options ⟨resources, before ++ launch :: rest, clients⟩ ⟨after, before ++ later :: rest, clients⟩
  | order (runtime : Runtime) (id : SessionId) :
      Step options runtime { runtime with launches := runtime.launches ++ [.ordered id] }
  | bring (runtime : Runtime) (id : SessionId) (request response : Handle) :
      Step options runtime { runtime with launches := runtime.launches ++ [.brought id request response] }
  | allocate {runtime : Runtime} {capacity : Nat} {handle : Handle} {pool : Region.Pool} {spot : Spot}
      (given : runtime.resources.pool.allocate capacity = (.ok handle, pool)) (found : pool.spot? handle = some spot) :
      Step options runtime { runtime.withPool pool with clients := spot :: runtime.clients }
  | refuse {runtime : Runtime} {capacity : Nat} {error : Region.Error} {pool : Region.Pool}
      (refused : runtime.resources.pool.allocate capacity = (.error error, pool)) :
      Step options runtime (runtime.withPool pool)
  /-- A client gives a region back that is not held for a session. -/
  | release {runtime : Runtime} {handle : Handle}
      (apart : ∀ kept ∈ runtime.held, runtime.resources.pool.spot? kept ≠ runtime.resources.pool.spot? handle) :
      Step options runtime
        { runtime.withPool (runtime.resources.pool.release handle).2 with
          clients := (runtime.resources.pool.spot? handle).elim runtime.clients runtime.clients.erase }
  /-- Clients write to regions and map them, schemas are installed, and the platform makes up its mind. -/
  | meanwhile {runtime : Runtime} {memory : Region.Memory} {verdicts : List (Option Region.Error)}
      {later : Session.Resources} (next : memory.next = runtime.resources.memory.next)
      (pool : later.pool = { runtime.resources.pool with memory, verdicts }) :
      Step options runtime { runtime with resources := later }

def Reaches (options : Session.Options) : Runtime → Runtime → Prop := Relation.ReflTransGen (Step options)

/-- Every region is accounted for, and every session holds what was allocated for it and not given back. -/
structure Sound (runtime : Runtime) : Prop where
  proper : ∀ launch ∈ runtime.launches, launch.Proper
  balanced : runtime.resources.pool.Balanced runtime.clients runtime.held

variable {options : Session.Options} {runtime later start : Runtime}

theorem opened_sound {resources : Session.Resources} (sound : resources.pool.Sound) : (opened resources).Sound where
  proper _ member := absurd member List.not_mem_nil
  balanced := sound.balanced

theorem held_move (resources : Session.Resources) (before rest : List Launch) (launch : Launch) (clients : List Spot) :
    (Runtime.mk resources (before ++ launch :: rest) clients).held.Perm
      (launch.held ++ (before ++ rest).flatMap Launch.held) := by
  unfold held
  rw [List.flatMap_append, List.flatMap_cons, List.flatMap_append, ← List.append_assoc, ← List.append_assoc]
  exact List.perm_append_comm.append_right _

theorem Step.sound (step : Step options runtime later) (sound : runtime.Sound) : later.Sound := by
  obtain ⟨proper, balanced⟩ := sound
  have joins (launch : Launch) (fresh : launch.held = []) (proper' : launch.Proper) :
      Sound { runtime with launches := runtime.launches ++ [launch] } := by
    refine ⟨fun other member => ?_, ?_⟩
    · rcases List.mem_append.mp member with old | new
      · exact proper other old
      · rw [List.mem_singleton.mp new]
        exact proper'
    · show runtime.resources.pool.Balanced runtime.clients ((runtime.launches ++ [launch]).flatMap Launch.held)
      rw [List.flatMap_append, List.flatMap_singleton, fresh, List.append_nil]
      exact balanced
  cases step with
  | @move resources after launch moved before rest clients step =>
    have member : launch ∈ before ++ launch :: rest := List.mem_append_right _ List.mem_cons_self
    -- what all others hold stays on the ledger while this one moves
    have kept := step.kept ⟨proper launch member, balanced.perm (held_move _ _ _ _ _)⟩
    refine ⟨fun other member => ?_, kept.balanced.perm (held_move _ _ _ _ _).symm⟩
    rcases List.mem_append.mp member with old | new
    · exact proper other (List.mem_append_left _ old)
    · rcases List.mem_cons.mp new with rfl | old
      · exact kept.proper
      · exact proper other (List.mem_append_right _ (List.mem_cons_of_mem _ old))
  | order _ id => exact joins _ rfl (Launch.ordered_proper id)
  | bring _ id request response => exact joins _ rfl (Launch.brought_proper id request response)
  | allocate given found =>
    obtain ⟨spot, same, admitted⟩ := balanced.allocate_client given
    obtain rfl := Option.some.inj (same.symm.trans found)
    exact ⟨proper, admitted⟩
  | refuse refused => exact ⟨proper, balanced.refused refused⟩
  | @release _ handle apart =>
    refine ⟨proper, ?_⟩
    cases found : runtime.resources.pool.spot? handle with
    | none => exact balanced.release_absent found
    | some spot => exact (balanced.release_client found (found ▸ apart)).2
  | @meanwhile _ memory verdicts later next pool =>
    refine ⟨proper, ?_⟩
    show later.pool.Balanced runtime.clients runtime.held
    rw [pool]
    exact balanced.retains (Region.Pool.retains_of_same memory verdicts)
      ((balanced.sound.setMemory next).setVerdicts verdicts)

theorem Reaches.sound (reaches : Reaches options start runtime) (sound : start.Sound) : runtime.Sound := by
  induction reaches with
  | refl => exact sound
  | tail _ step ih => exact step.sound ih

/-- No session is being started or torn down. -/
def AtRest (runtime : Runtime) : Prop := ∀ launch ∈ runtime.launches, launch.AtRest

/-- The sessions that were started over regions of the manager and have not terminated. -/
def unterminated (runtime : Runtime) : List Session := runtime.launches.filterMap Launch.unterminated?

/-- The regions that are there are those of the clients and two of each session that has not terminated, none
of them twice; whatever was allocated for any other session was given back once. -/
structure Accounted (runtime : Runtime) : Prop where
  regions : runtime.resources.pool.Lists (runtime.clients.map some ++ runtime.unterminated.flatMap fun session =>
    [runtime.resources.pool.spot? session.holding.request, runtime.resources.pool.spot? session.holding.response])
  settled : ∀ launch ∈ runtime.launches, launch.Settled

theorem held_of_rest {launches : List Launch} (proper : ∀ launch ∈ launches, launch.Proper)
    (rest : ∀ launch ∈ launches, launch.AtRest) :
    launches.flatMap Launch.held = (launches.filterMap Launch.unterminated?).flatMap fun session =>
      [session.holding.request, session.holding.response] := by
  induction launches with
  | nil => rfl
  | cons launch others ih =>
    obtain ⟨first, later⟩ := List.forall_mem_cons.mp proper
    obtain ⟨resting, still⟩ := List.forall_mem_cons.mp rest
    rw [List.flatMap_cons, first.held_of_rest resting, ih later still, List.filterMap_cons]
    cases launch.unterminated? with
    | none => rfl
    | some session => rfl

theorem Sound.accounted (sound : runtime.Sound) (rest : runtime.AtRest) : runtime.Accounted := by
  refine ⟨?_, fun launch member => (sound.proper launch member).settled (rest launch member)⟩
  have lists := sound.balanced.lists
  unfold held at lists
  rw [held_of_rest sound.proper rest, List.map_flatMap] at lists
  exact lists

end Runtime

end SharedRecords.Manager
