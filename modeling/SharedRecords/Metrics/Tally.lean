import SharedRecords.Number.Total

/-!
Counters by label. A counter exists once it was asked for or counted, and counting one label
leaves every other label alone.
-/

namespace SharedRecords.Metrics

/-- Counters in the order in which they came to exist. -/
structure Tally (α : Type) where
  counters : List (α × Nat)
  deriving Repr, Inhabited

namespace Tally

variable {α : Type} [DecidableEq α]

def empty : Tally α := ⟨[]⟩

def raise (label : α) (amount : Nat) : List (α × Nat) → List (α × Nat)
  | [] => [(label, amount)]
  | (other, held) :: rest =>
    if other = label then (other, held + amount) :: rest else (other, held) :: raise label amount rest

def add (tally : Tally α) (label : α) (amount : Nat) : Tally α := ⟨raise label amount tally.counters⟩

def touch (tally : Tally α) (label : α) : Tally α := tally.add label 0

def count (tally : Tally α) (label : α) : Nat :=
  ((tally.counters.find? (·.1 = label)).map (·.2)).getD 0

theorem count_add_self (tally : Tally α) (label : α) (amount : Nat) :
    (tally.add label amount).count label = tally.count label + amount := by
  obtain ⟨counters⟩ := tally
  simp only [add, count]
  induction counters with
  | nil => simp [raise]
  | cons first rest ih =>
    by_cases same : first.1 = label
    · simp [raise, same]
    · simpa [raise, same] using ih

theorem count_add_of_ne (tally : Tally α) {label other : α} (apart : label ≠ other) (amount : Nat) :
    (tally.add label amount).count other = tally.count other := by
  obtain ⟨counters⟩ := tally
  simp only [add, count]
  induction counters with
  | nil => simp [raise, apart]
  | cons first rest ih =>
    by_cases same : first.1 = label
    · have different : first.1 ≠ other := same ▸ apart
      simp [raise, same, apart]
    · by_cases hit : first.1 = other
      · simp [raise, hit, Ne.symm apart]
      · simpa [raise, same, hit] using ih

theorem count_touch (tally : Tally α) (label other : α) : (tally.touch label).count other = tally.count other := by
  by_cases same : label = other
  · subst same
    exact tally.count_add_self label 0
  · exact tally.count_add_of_ne same 0

theorem total_count_add (tally : Tally α) {labels : List α} (apart : labels.Nodup) {label : α}
    (member : label ∈ labels) (amount : Nat) :
    Number.total (labels.map (tally.add label amount).count) = Number.total (labels.map tally.count) + amount := by
  induction labels with
  | nil => exact absurd member List.not_mem_nil
  | cons first rest ih =>
    obtain ⟨absent, later⟩ := List.nodup_cons.mp apart
    simp only [List.map_cons, Number.total_cons]
    rcases List.mem_cons.mp member with rfl | further
    · have others : rest.map (tally.add label amount).count = rest.map tally.count := by
        refine List.map_congr_left fun other inside => tally.count_add_of_ne ?_ amount
        exact (ne_of_mem_of_not_mem inside absent).symm
      rw [count_add_self, others]
      omega
    · have other : label ≠ first := ne_of_mem_of_not_mem further absent
      rw [tally.count_add_of_ne other, ih later further]
      omega

end Tally

end SharedRecords.Metrics
