import SharedRecords.Latency.Basic
import SharedRecords.Number.Decimal
import SharedRecords.Text.Lines

/-!
A summary of latencies for people, line by line: a heading, then one line for each of a few
quantiles, for the greatest value and for the mean, in nanoseconds and in microseconds.
-/

namespace SharedRecords.Latency

def padLeft (width : Nat) (text : String) : String :=
  String.ofList (List.replicate (width - text.length) ' ') ++ text

def padRight (width : Nat) (text : String) : String :=
  text ++ String.ofList (List.replicate (width - text.length) ' ')

namespace Histogram

def row (label nanoseconds : String) (microseconds : Float) : String :=
  "  " ++ padRight 6 label ++ " " ++ padLeft 10 nanoseconds ++ " ns (" ++
    padLeft 8 (Number.fixed 2 microseconds) ++ " μs)"

def valueRow (label : String) (value : Nat) : String :=
  row label (toString value) (toFloat value / 1000.0)

/-- The heading has as many lines as the name of the operation. -/
def summary (histogram : Histogram) (operation : String) : List String :=
  Text.lines s!"{operation} latency ({histogram.count} samples):" ++
    [valueRow "p50" (histogram.quantile 0.5),
      valueRow "p95" (histogram.quantile 0.95),
      valueRow "p99" (histogram.quantile 0.99),
      valueRow "p99.9" (histogram.quantile 0.999),
      valueRow "max" histogram.max,
      row "mean" (Number.fixed 0 histogram.mean) (histogram.mean / 1000.0)]

end Histogram

end SharedRecords.Latency
