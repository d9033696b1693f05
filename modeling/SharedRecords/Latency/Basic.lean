import SharedRecords.Duration
import SharedRecords.Number.Total

/-!
Latencies, kept in bins. Values of at most eleven bits have a bin each; a longer value shares its
bin with all that agree with it in the leading eleven bits, so no bin is wider than a thousandth of
its values.
-/

namespace SharedRecords.Latency

def precision : Nat := 11

def greatest : Nat := 0xffffffffffffffff

def bitLength (value : Nat) : Nat := if value = 0 then 0 else value.log2 + 1

def shift (value : Nat) : Nat := bitLength value - precision

def width (value : Nat) : Nat := Nat.pow 2 (shift value)

def lowest (value : Nat) : Nat := value / width value * width value

def highest (value : Nat) : Nat :=
  if value = greatest then greatest else min (lowest value + width value) greatest - 1

def median (value : Nat) : Nat := lowest value + width value / 2

/-- Counts by the least value of the bin, in ascending order. -/
structure Histogram where
  bins : List (Nat × Nat)
  top : Nat
  /-- The least recorded value above zero. -/
  bottom : Nat
  deriving DecidableEq, Repr, Inhabited

namespace Histogram

def empty : Histogram := ⟨[], 0, greatest⟩

def place (bin count : Nat) : List (Nat × Nat) → List (Nat × Nat)
  | [] => [(bin, count)]
  | (other, held) :: rest =>
    if bin < other then (bin, count) :: (other, held) :: rest
    else if bin = other then (other, held + count) :: rest
    else (other, held) :: place bin count rest

def recordMany (histogram : Histogram) (value count : Nat) : Histogram :=
  if count = 0 then histogram
  else
    ⟨place (lowest value) count histogram.bins, max histogram.top value,
      if value = 0 then histogram.bottom else min histogram.bottom value⟩

def record (histogram : Histogram) (value : Nat) : Histogram := histogram.recordMany value 1

def recordElapsed (histogram : Histogram) (elapsed : Duration) : Histogram :=
  histogram.record (elapsed.nanoseconds % (greatest + 1))

def count (histogram : Histogram) : Nat := Number.total (histogram.bins.map (·.2))

def max (histogram : Histogram) : Nat := if histogram.top = 0 then 0 else highest histogram.top

def min (histogram : Histogram) : Nat :=
  match histogram.bins with
  | [] => 0
  | (0, _) :: _ => 0
  | _ => if histogram.bottom = greatest then greatest else lowest histogram.bottom

def merge (histogram other : Histogram) : Histogram :=
  ⟨other.bins.foldl (fun bins (bin, count) => place bin count bins) histogram.bins,
    Nat.max histogram.top other.max,
    Nat.min histogram.bottom (if other.bottom = greatest then greatest else lowest other.bottom)⟩

def binAt? (bound : Nat) : Nat → List (Nat × Nat) → Option Nat
  | _, [] => none
  | before, (bin, count) :: rest =>
    if bound ≤ before + count then some bin else binAt? bound (before + count) rest

def toFloat (value : Nat) : Float := (UInt64.ofNat value).toFloat

/-- The samples that a quantile has at or below it; the product is one of doubles. -/
def rank (histogram : Histogram) (quantile : Float) : Nat :=
  Nat.max 1 (quantile * toFloat histogram.count).ceil.toUInt64.toNat

def quantile (histogram : Histogram) (quantile : Float) : Nat :=
  match binAt? (histogram.rank quantile) 0 histogram.bins with
  | some bin => highest bin
  | none => 0

def mean (histogram : Histogram) : Float :=
  let total := toFloat histogram.count
  histogram.bins.foldl
    (fun sum (bin, count) => sum + toFloat (median bin) * toFloat count / total) 0.0

theorem place_sum (bin count : Nat) (bins : List (Nat × Nat)) :
    Number.total ((place bin count bins).map (·.2)) = count + Number.total (bins.map (·.2)) := by
  induction bins with
  | nil => simp [place]
  | cons first rest ih =>
    unfold place
    split
    · simp
    · split
      · simp
        omega
      · simp only [List.map_cons, Number.total_cons, ih]
        omega

theorem count_recordMany (histogram : Histogram) (value count : Nat) :
    (histogram.recordMany value count).count = histogram.count + count := by
  by_cases none : count = 0
  · simp [recordMany, none]
  · simp only [recordMany, if_neg none, Histogram.count, place_sum]
    omega

theorem count_merge (histogram other : Histogram) :
    (histogram.merge other).count = histogram.count + other.count := by
  unfold Histogram.count merge
  dsimp only
  generalize histogram.bins = bins
  induction other.bins generalizing bins with
  | nil => rfl
  | cons first rest ih =>
    rw [List.foldl_cons, ih, place_sum, List.map_cons, Number.total_cons]
    omega

/-- What reports rely on, whatever a histogram keeps of its samples: it counts them. -/
structure Counts {α : Type} (empty : α) (record : α → Nat → α) (merge : α → α → α) (count : α → Nat) : Prop where
  empty : count empty = 0
  record : ∀ histogram value, count (record histogram value) = count histogram + 1
  /-- No sample is lost where two histograms come together. -/
  merge : ∀ histogram other, count (merge histogram other) = count histogram + count other

theorem counts : Counts empty record merge Histogram.count :=
  ⟨rfl, fun histogram value => count_recordMany histogram value 1, count_merge⟩

end Histogram

end SharedRecords.Latency
