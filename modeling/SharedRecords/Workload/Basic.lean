import SharedRecords.Client.Error
import SharedRecords.Latency.Basic
import SharedRecords.Number.Total
import SharedRecords.Schema
import SharedRecords.Wire.Request
import SharedRecords.Workload.Mix

/-!
Workloads: a table to fill with records, and a mix of operations to run against it. What came of a
run is reported as one histogram of latencies for each operation.
-/

namespace SharedRecords

structure Workload where
  table : String := "usertable"
  fieldCount : Nat := 10
  fieldLength : Nat := 100
  recordCount : Nat
  scanLength : Nat := 10
  mix : Workload.Mix
  deriving DecidableEq, Repr, Inhabited

namespace Workload

def fieldName (index : Nat) : String := s!"field{index}"

def schema (workload : Workload) : Table :=
  ⟨workload.table, (List.range workload.fieldCount).map fieldName⟩

def key (number : Nat) : String :=
  let digits := Nat.toDigits 10 number
  "user" ++ String.ofList (List.replicate (10 - digits.length) '0' ++ digits)

/-- The letter that fills the values of a record. -/
def letter (number : Nat) : Char := Char.ofNat ('a'.toNat + number % 26)

def values (workload : Workload) (number : Nat) : Record :=
  let value := String.ofList (List.replicate workload.fieldLength (letter number))
  (List.range workload.fieldCount).map fun index => ⟨fieldName index, value⟩

def hashFactor : Nat := 2654435761

def target (workload : Workload) (slot : Nat) : Nat :=
  slot * hashFactor % Mix.wordSize % max workload.recordCount 1

/-- What a slot asks of the session; `next` is the number of the next record to insert. An update writes the
first field, and where records have no fields there is none to write. -/
def request (workload : Workload) (slot next : Nat) : Option Wire.Request :=
  let wanted := key (workload.target slot)
  match workload.mix.pick slot with
  | .read => some (.read workload.table wanted [])
  | .scan => some (.scan workload.table wanted (UInt64.ofNat workload.scanLength) [])
  | .update => (workload.values slot).head?.map fun value => .update workload.table wanted [value]
  | .insert => some (.insert workload.table (key next) (workload.values next))

structure Report where
  latencies : List (Operation × Latency.Histogram)
  /-- Operations that found no record. -/
  misses : Nat
  deriving Inhabited

namespace Report

def empty : Report := ⟨[], 0⟩

/-- The order in which operations are reported. -/
def enter (operation : Operation) (nanoseconds : Nat) :
    List (Operation × Latency.Histogram) → List (Operation × Latency.Histogram)
  | [] => [(operation, Latency.Histogram.empty.record nanoseconds)]
  | (other, held) :: rest =>
    if other = operation then (other, held.record nanoseconds) :: rest
    else (other, held) :: enter operation nanoseconds rest

def record (report : Report) (operation : Operation) (nanoseconds : Nat) : Report :=
  { report with latencies := enter operation nanoseconds report.latencies }

def miss (report : Report) : Report := { report with misses := report.misses + 1 }

def latency? (report : Report) (operation : Operation) : Option Latency.Histogram :=
  (report.latencies.find? (·.1 = operation)).map (·.2)

def entries (report : Report) : List (Operation × Latency.Histogram) :=
  Operation.all.filterMap fun operation => (report.latency? operation).map fun held => (operation, held)

def operations (report : Report) : Nat := Number.total (report.latencies.map fun entry => entry.2.count)

def overall (report : Report) : Latency.Histogram :=
  report.entries.foldl (fun merged entry => merged.merge entry.2) .empty

end Report

/-- Where a workload stopped, and why. -/
structure Failure where
  context : String
  error : Client.Error
  deriving DecidableEq, Repr, Inhabited

def Failure.message (failure : Failure) : String :=
  ": ".intercalate (failure.context :: failure.error.message :: failure.error.causes)

end Workload

end SharedRecords
