import SharedRecords.Metrics.Basic
import SharedRecords.Number.Decimal

/-!
Metrics as lines of text: families by name, each with its help, its type and its series by label.
A labelled family without series does not show.
-/

namespace SharedRecords.Metrics

/-- One line of a family: what follows its name, and the number. -/
structure Sample where
  ending : String
  labels : List (String × String)
  value : String

structure Family where
  name : String
  help : String
  kind : String
  samples : List Sample

namespace Sample

def label (pair : String × String) : String := pair.1 ++ "=\"" ++ pair.2 ++ "\""

def line (family : String) (sample : Sample) : String :=
  let labels :=
    if sample.labels.isEmpty then ""
    else "\x7b" ++ ",".intercalate (sample.labels.map label) ++ "\x7d"
  family ++ sample.ending ++ labels ++ " " ++ sample.value

end Sample

namespace Family

def lines (family : Family) : List String :=
  ("# HELP " ++ family.name ++ " " ++ family.help) ::
    ("# TYPE " ++ family.name ++ " " ++ family.kind) ::
      family.samples.map (·.line family.name)

end Family

def opcodes : List Wire.Opcode := Wire.Opcode.all.mergeSort fun first second => first.name ≤ second.name

def statuses : List Wire.Status := Wire.Status.all.mergeSort fun first second => first.name ≤ second.name

/-- The upper bounds of the buckets: one microsecond, and then twice as much each time. -/
def bounds : List Duration := (List.range 17).map fun step => .ofMicroseconds (Nat.pow 2 step)

/-- Whole seconds and the rest of a second are converted apart. -/
def seconds (duration : Duration) : Float :=
  (UInt64.ofNat (duration.nanoseconds / 1000000000)).toFloat +
    (UInt64.ofNat (duration.nanoseconds % 1000000000)).toFloat / 1000000000.0

/-- Doubles are added in the order in which they were observed. -/
def total (durations : List Duration) : Float :=
  durations.foldl (fun sum duration => sum + seconds duration) 0.0

def bucket (opcode : Wire.Opcode) (bound : String) (count : Nat) : Sample :=
  ⟨"_bucket", [("op", opcode.name), ("le", bound)], toString count⟩

def histogram (opcode : Wire.Opcode) (durations : List Duration) : List Sample :=
  (bounds.map fun bound =>
    bucket opcode (Duration.decimal 9 bound.nanoseconds) (durations.countP fun held => decide (held ≤ bound))) ++
  [bucket opcode "+Inf" durations.length,
    ⟨"_sum", [("op", opcode.name)], Number.text (total durations)⟩,
    ⟨"_count", [("op", opcode.name)], toString durations.length⟩]

def durations (metrics : Metrics) (opcode : Wire.Opcode) : List Duration :=
  (metrics.observations.reverse.filter (·.1 = opcode)).map (·.2)

def durationSamples (metrics : Metrics) : List Sample :=
  opcodes.flatMap fun opcode =>
    match metrics.durations opcode with
    | [] => []
    | held => histogram opcode held

def operationSamples (metrics : Metrics) : List Sample :=
  opcodes.flatMap fun opcode =>
    statuses.filterMap fun status =>
      (metrics.operations.counters.find? (·.1 = (opcode, status))).map fun found =>
        ⟨"", [("op", opcode.name), ("status", status.name)], toString found.2⟩

def single (value : String) : List Sample := [⟨"", [], value⟩]

def families (metrics : Metrics) : List Family :=
  [⟨"shmdb_operation_duration_seconds", "Time from request observed to response published",
      "histogram", metrics.durationSamples⟩,
    ⟨"shmdb_operations_total", "Requests served by opcode and status", "counter",
      metrics.operationSamples⟩,
    ⟨"shmdb_protocol_errors_total", "Sessions aborted by a protocol violation", "counter",
      single (toString metrics.protocolErrors)⟩,
    ⟨"shmdb_sessions_active", "Sessions not yet terminated", "gauge", single (toString metrics.active)⟩,
    ⟨"shmdb_sessions_spawned_total", "Sessions that reached Serving", "counter",
      single (toString metrics.spawned)⟩,
    ⟨"shmdb_spawn_failures_total", "Spawn attempts that failed", "counter",
      single (toString metrics.spawnFailures)⟩].filter (!·.samples.isEmpty)

def render (metrics : Metrics) : List String := metrics.families.flatMap (·.lines)

end SharedRecords.Metrics
