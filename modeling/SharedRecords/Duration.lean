/-!
Lengths of time, counted in nanoseconds. The text of one uses the largest of `s`, `ms`, `µs`
and `ns` that gives at least one, with the fraction's trailing zeros dropped.
-/

namespace SharedRecords

structure Duration where
  nanoseconds : Nat
  deriving DecidableEq, Repr, Inhabited

namespace Duration

def zero : Duration := ⟨0⟩

def ofMicroseconds (count : Nat) : Duration := ⟨1000 * count⟩

def ofMilliseconds (count : Nat) : Duration := ⟨1000000 * count⟩

instance : LE Duration := ⟨fun first second => first.nanoseconds ≤ second.nanoseconds⟩

instance (first second : Duration) : Decidable (first ≤ second) :=
  inferInstanceAs (Decidable (first.nanoseconds ≤ second.nanoseconds))

/-- A count of `10 ^ places` parts as a decimal, without trailing zeros or a bare point. -/
def decimal (places parts : Nat) : String :=
  let unit := Nat.pow 10 places
  let whole := toString (parts / unit)
  let digits := (Nat.toDigits 10 (unit + parts % unit)).drop 1
  let fraction := (digits.reverse.dropWhile (· == '0')).reverse
  if fraction.isEmpty then whole else whole ++ "." ++ String.ofList fraction

def text (duration : Duration) : String :=
  let count := duration.nanoseconds
  if 1000000000 ≤ count then decimal 9 count ++ "s"
  else if 1000000 ≤ count then decimal 6 count ++ "ms"
  else if 1000 ≤ count then decimal 3 count ++ "µs"
  else toString count ++ "ns"

example : (Duration.mk 20000001).text = "20.000001ms" := by decide +kernel
example : (Duration.mk 3600000000000).text = "3600s" := by decide +kernel

end Duration

end SharedRecords
