import SharedRecords.Database
import SharedRecords.Workload.Basic

/-!
Running a workload through a client and its session. The time each request takes is measured
outside and handed in by slot.
-/

namespace SharedRecords.Workload

/-- The client and the manager that it works with. -/
structure Bench where
  manager : Manager
  client : Client

namespace Bench

def start (table : Table) (options : Session.Options) : Except Database.Error Bench :=
  let manager := Manager.new (.ofStore .empty) (.anonymous .empty none) options
  let database : Database := ⟨(manager.installSchema ⟨[table], ":memory:"⟩).2, {}⟩
  match database.connect with
  | (.ok client, connected) => .ok ⟨connected.manager, client⟩
  | (.error error, _) => .error error

/-- No answer means that the client would wait forever. -/
def call (bench : Bench) (request : Wire.Request) : Option (Except Client.Error Wire.Reply × Bench) :=
  (bench.manager.call bench.client request).map fun (result, client, manager) =>
    (result, ⟨manager, client⟩)

def finish (bench : Bench) : Option Session.Summary :=
  let later := ((bench.call .close).map (·.2.manager)).getD bench.manager
  match later.join bench.client.id with
  | some (.ok summary, _) => some summary
  | _ => none

end Bench

/-- Inserts so many records from a number on. -/
def loadFrom (workload : Workload) (elapsed : Nat → Nat) :
    Nat → Nat → Latency.Histogram → Bench → Option (Except Failure Latency.Histogram × Bench)
  | 0, _, tracker, bench => some (.ok tracker, bench)
  | count + 1, number, tracker, bench =>
    match bench.call (.insert workload.table (key number) (workload.values number)) with
    | none => none
    | some (.error error, later) => some (.error ⟨s!"loading record {number}", error⟩, later)
    | some (.ok _, later) =>
      loadFrom workload elapsed count (number + 1) (tracker.record (elapsed number)) later

def load (workload : Workload) (elapsed : Nat → Nat) (bench : Bench) :
    Option (Except Failure Latency.Histogram × Bench) :=
  workload.loadFrom elapsed workload.recordCount 0 .empty bench

def slotContext (workload : Workload) (slot : Nat) : String :=
  s!"{(workload.mix.pick slot).name} #{slot} on {key (workload.target slot)}"

def nextInsert (workload : Workload) (slot next : Nat) : Nat :=
  if workload.mix.pick slot = .insert then next + 1 else next

/-- Runs so many slots from one on. A missing record is a miss; any other error ends the run. There is no answer
where the client would wait forever or has nothing to ask. -/
def runFrom (workload : Workload) (elapsed : Nat → Nat) :
    Nat → Nat → Nat → Report → Bench → Option (Except Failure Report × Bench)
  | 0, _, _, report, bench => some (.ok report, bench)
  | count + 1, slot, next, report, bench =>
    let operation := workload.mix.pick slot
    let proceed := fun (report : Report) later =>
      runFrom workload elapsed count (slot + 1) (workload.nextInsert slot next)
        (report.record operation (elapsed slot)) later
    match (workload.request slot next).bind bench.call with
    | none => none
    | some (.ok _, later) => proceed report later
    | some (.error .notFound, later) => proceed report.miss later
    | some (.error error, later) => some (.error ⟨workload.slotContext slot, error⟩, later)

def run (workload : Workload) (elapsed : Nat → Nat) (operations : Nat) (bench : Bench) :
    Option (Except Failure Report × Bench) :=
  workload.runFrom elapsed operations 0 workload.recordCount .empty bench

end SharedRecords.Workload
