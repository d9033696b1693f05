import SharedRecords.Duration
import SharedRecords.Metrics.Tally
import SharedRecords.Wire.Code

/-!
What a manager counts: its sessions, the operations they served and how long each took.
-/

namespace SharedRecords

structure Metrics where
  spawned : Nat
  /-- The spawned sessions that have not terminated. -/
  active : Int
  spawnFailures : Nat
  protocolErrors : Nat
  operations : Metrics.Tally (Wire.Opcode × Wire.Status)
  /-- The time each operation took, latest first. -/
  observations : List (Wire.Opcode × Duration)
  deriving Inhabited

namespace Metrics

def empty : Metrics := ⟨0, 0, 0, 0, .empty, []⟩

def sessionSpawned (metrics : Metrics) : Metrics :=
  { metrics with spawned := metrics.spawned + 1, active := metrics.active + 1 }

def sessionTerminated (metrics : Metrics) : Metrics := { metrics with active := metrics.active - 1 }

def spawnFailed (metrics : Metrics) : Metrics :=
  { metrics with spawnFailures := metrics.spawnFailures + 1 }

def protocolError (metrics : Metrics) : Metrics :=
  { metrics with protocolErrors := metrics.protocolErrors + 1 }

def record (metrics : Metrics) (opcode : Wire.Opcode) (status : Wire.Status) (elapsed : Duration) :
    Metrics :=
  { metrics with
    operations := metrics.operations.add (opcode, status) 1
    observations := (opcode, elapsed) :: metrics.observations }

def count (metrics : Metrics) (opcode : Wire.Opcode) (status : Wire.Status) : Nat :=
  metrics.operations.count (opcode, status)

def counters (metrics : Metrics) : List (String × Nat) :=
  Wire.Opcode.all.flatMap fun opcode =>
    (Wire.Status.all.filter fun status => 0 < metrics.count opcode status).map fun status =>
      (opcode.name ++ "." ++ status.name, metrics.count opcode status)

/-- Asking for a counter makes it show from then on. -/
def touch (metrics : Metrics) (opcode : Wire.Opcode) (status : Wire.Status) : Metrics :=
  { metrics with operations := metrics.operations.touch (opcode, status) }

def description (metrics : Metrics) : String :=
  "ServerMetrics \x7b sessions_spawned: " ++ toString metrics.spawned ++ ", sessions_active: " ++
    toString metrics.active ++ ", protocol_errors: " ++ toString metrics.protocolErrors ++ ", .. \x7d"

theorem count_record (metrics : Metrics) (opcode : Wire.Opcode) (status : Wire.Status) (elapsed : Duration) :
    (metrics.record opcode status elapsed).count opcode status = metrics.count opcode status + 1 :=
  Tally.count_add_self ..

@[simp] theorem count_touch (metrics : Metrics) (asked : Wire.Opcode) (told : Wire.Status) (opcode : Wire.Opcode)
    (status : Wire.Status) : (metrics.touch asked told).count opcode status = metrics.count opcode status :=
  metrics.operations.count_touch (asked, told) (opcode, status)

end Metrics

end SharedRecords
