import SharedRecords.Proofs.Manager.Mapped
import SharedRecords.Proofs.Session.Services

/-!
Runs of all sessions under way, with a record of what they served. Nobody but a session and the call that starts it
counts anything.
-/

namespace SharedRecords.Manager

open Region (Handle Spot)
open Session (Service)

/-- A run of acts, and what was served in it, the latest last. -/
inductive Recorded {α : Type} (act : α → List Service → α → Prop) : α → List Service → α → Prop where
  | refl (start : α) : Recorded act start [] start
  | tail {start between last : α} {record services : List Service} (run : Recorded act start record between)
      (next : act between services last) : Recorded act start (record ++ services) last

namespace Recorded

variable {α β : Type} {act : α → List Service → α → Prop} {other : β → List Service → β → Prop}
  {start between last : α} {record services : List Service}

theorem single (next : act start services last) : Recorded act start services last := .tail (.refl start) next

theorem trans (first : Recorded act start record between) (second : Recorded act between services last) :
    Recorded act start (record ++ services) last := by
  induction second with
  | refl => exact (List.append_nil record).symm ▸ first
  | tail _ next ih =>
    rw [← List.append_assoc]
    exact .tail ih next

theorem lift (place : α → β) (each : ∀ first services last, act first services last →
    other (place first) services (place last)) (run : Recorded act start record last) :
    Recorded other (place start) record (place last) := by
  induction run with
  | refl => exact .refl _
  | tail _ next ih => exact .tail ih (each _ _ _ next)

end Recorded

namespace Launch

/-- What a session does between two requests of others, and what it serves in doing so. -/
inductive Act (options : Session.Options) :
    Launch × Session.Resources → List Service → Launch × Session.Resources → Prop where
  | advance (launch : Launch) (resources : Session.Resources) :
      Act options (launch, resources) [] (launch.advance options resources)
  /-- No thread could be had for the session. -/
  | threadless {launch : Launch} {holding : Session.Holding} (held : launch.progress = .equipped holding)
      (resources : Session.Resources) :
      Act options (launch, resources) [] (launch.fail holding.owns resources)
  | turn {launch : Launch} {session later : Session} {elapsed : Duration} {resources after : Session.Resources}
      (serves : launch.progress = .started session) (served : session.serve elapsed resources = (later, after))
      (serving : later.state = .serving) :
      Act options (launch, resources) (session.services resources later after) (launch.moves (.started later), after)
  /-- A turn that ends in a teardown, up to where the session gives back what it holds. -/
  | part {launch : Launch} {session leaving : Session} {result : Except Session.Error Session.Summary}
      {elapsed : Duration} {resources between : Session.Resources} (serves : launch.progress = .started session)
      (leaves : session.Leaves elapsed resources leaving result between) :
      Act options (launch, resources) (session.services resources leaving between)
        (launch.moves (.closing leaving.unmapped result leaving.holding.owns), between)
  /-- The manager takes the session into its list. -/
  | enroll (launch : Launch) (started : launch.progress.HasStarted) (unlisted : launch.listing = .unlisted)
      (resources : Session.Resources) :
      Act options (launch, resources) [] ({ launch with listing := .listed }, resources)
  /-- The manager takes the session off its list, to wait for its end if need be. -/
  | collect {launch : Launch} (listed : launch.listing = .listed) (resources : Session.Resources) :
      Act options (launch, resources) [] ({ launch with listing := .collected }, resources)

/-- No call that starts the session is under way, and no teardown. -/
def Quiet (launch : Launch) : Prop :=
  match launch.progress with
  | .started _ | .ended _ => True
  | .leaving rest => rest = []
  | .asking | .halfway _ | .equipped _ | .watching .. | .attached .. | .closing .. => False

variable {options : Session.Options} {first between last : Launch × Session.Resources} {services : List Service}
  {clients : List Spot} {others : List Handle} {launch : Launch} {session : Session}

theorem quiet_of_ended (ended : launch.progress = .ended session) : launch.Quiet := by
  unfold Quiet
  rw [ended]
  trivial

theorem quiet_of_left (left : launch.progress = .leaving []) : launch.Quiet := by
  unfold Quiet
  rw [left]

theorem Act.step (act : Act options first services last) : Step options first.1 first.2 last.1 last.2 := by
  cases act with
  | advance launch resources => exact .advance launch resources
  | threadless held resources => exact .threadless held resources
  | turn serves served serving => exact .turn serves served serving
  | part serves leaves => exact .part serves leaves.serve leaves.writes leaves.holding
  | enroll launch started unlisted resources => exact .enroll launch started unlisted resources
  | collect listed resources => exact .collect listed resources

def Runs (options : Session.Options) (first last : Launch × Session.Resources) : Prop :=
  ∃ record, Recorded (Act options) first record last

theorem Runs.refl (first : Launch × Session.Resources) : Runs options first first := ⟨[], .refl first⟩

theorem Runs.single (act : Act options first services last) : Runs options first last := ⟨services, .single act⟩

theorem Runs.trans (early : Runs options first between) (late : Runs options between last) :
    Runs options first last := by
  obtain ⟨record, early⟩ := early
  obtain ⟨services, late⟩ := late
  exact ⟨record ++ services, early.trans late⟩

theorem Runs.kept (runs : Runs options first last) (kept : Kept clients others first.1 first.2) :
    Kept clients others last.1 last.2 := by
  obtain ⟨record, run⟩ := runs
  induction run with
  | refl => exact kept
  | tail _ act ih => exact act.step.kept ih

end Launch

namespace Runtime

/-- The next thing that happens, and what is served in it. -/
inductive Act (options : Session.Options) : Runtime → List Service → Runtime → Prop where
  | move {resources after : Session.Resources} {launch later : Launch} {services : List Service}
      (before rest : List Launch) (clients : List Spot)
      (act : Launch.Act options (launch, resources) services (later, after)) :
      Act options ⟨resources, before ++ launch :: rest, clients⟩ services ⟨after, before ++ later :: rest, clients⟩
  | order (runtime : Runtime) (id : SessionId) :
      Act options runtime [] { runtime with launches := runtime.launches ++ [.ordered id] }
  | bring (runtime : Runtime) (id : SessionId) (request response : Handle) :
      Act options runtime [] { runtime with launches := runtime.launches ++ [.brought id request response] }
  | ask (runtime : Runtime) (opcode : Wire.Opcode) (status : Wire.Status) :
      Act options runtime []
        { runtime with
          resources := { runtime.resources with metrics := runtime.resources.metrics.touch opcode status } }
  /-- Clients act, schemas are installed, and the platform makes up its mind. -/
  | others {runtime later : Runtime} (step : Step options runtime later) (launches : later.launches = runtime.launches)
      (metrics : later.resources.metrics = runtime.resources.metrics) : Act options runtime [] later

def Quiet (runtime : Runtime) : Prop := ∀ launch ∈ runtime.launches, launch.Quiet

variable {options : Session.Options} {runtime between later : Runtime} {record services : List Service}

theorem Act.step (act : Act options runtime services later) : Step options runtime later := by
  cases act with
  | move before rest clients act => exact .move before rest clients act.step
  | order _ id => exact .order runtime id
  | bring _ id request response => exact .bring runtime id request response
  | ask _ opcode status => exact .meanwhile rfl rfl
  | others step => exact step

def Runs (options : Session.Options) : Runtime → List Service → Runtime → Prop := Recorded (Act options)

theorem Runs.reaches (runs : Runs options runtime record later) : Reaches options runtime later := by
  induction runs with
  | refl => exact .refl
  | tail _ act ih => exact .tail ih act.step

end Runtime

end SharedRecords.Manager
