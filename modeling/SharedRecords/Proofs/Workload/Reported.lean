import SharedRecords.Proofs.Workload.Evenness
import SharedRecords.Workload.Basic

/-!
What a report counts. Every operation that is recorded counts once, under its own name and in the whole, and
nothing else does.
-/

namespace SharedRecords.Workload

namespace Report

variable {report later : Report} {mix : Mix} {slot : Nat}

/-- How many operations of one kind were run. -/
def count (report : Report) (operation : Operation) : Nat :=
  ((report.latency? operation).map Latency.Histogram.count).getD 0

theorem find?_enter (operation other : Operation) (nanoseconds : Nat)
    (entries : List (Operation × Latency.Histogram)) :
    ((enter operation nanoseconds entries).find? (·.1 = other)).map (·.2) =
      if other = operation then
        some (Latency.Histogram.record (((entries.find? (·.1 = operation)).map (·.2)).getD .empty) nanoseconds)
      else (entries.find? (·.1 = other)).map (·.2) := by
  induction entries with
  | nil =>
    by_cases same : other = operation
    · simp [enter, same]
    · simp [enter, same, Ne.symm same]
  | cons first rest ih =>
    unfold enter
    split
    next here =>
      by_cases same : other = operation
      · simp [here, same]
      · simp [same, here, Ne.symm same]
    next different =>
      by_cases here : first.1 = other
      · have apart : other ≠ operation := fun also => different (here.trans also)
        simp [here, apart]
      · simp [here, different, ih]

theorem count_record (report : Report) (operation : Operation) (nanoseconds : Nat) (other : Operation) :
    (report.record operation nanoseconds).count other = report.count other + if operation = other then 1 else 0 := by
  unfold count latency? record
  rw [find?_enter]
  by_cases same : other = operation
  · subst same
    rw [if_pos rfl, if_pos rfl, Option.map_some, Option.getD_some, Latency.Histogram.counts.record]
    cases (report.latencies.find? (·.1 = other)).map (·.2) with
    | none => exact congrArg (· + 1) Latency.Histogram.counts.empty
    | some held => rfl
  · rw [if_neg same, if_neg (Ne.symm same)]
    rfl

theorem operations_record (report : Report) (operation : Operation) (nanoseconds : Nat) :
    (report.record operation nanoseconds).operations = report.operations + 1 := by
  unfold operations record
  dsimp only
  induction report.latencies with
  | nil =>
    rw [enter, List.map_cons, List.map_nil, Number.total_cons, Latency.Histogram.counts.record,
      Latency.Histogram.counts.empty]
    rfl
  | cons first rest ih =>
    unfold enter
    split
    · rw [List.map_cons, List.map_cons, Number.total_cons, Number.total_cons, Latency.Histogram.counts.record]
      omega
    · rw [List.map_cons, List.map_cons, Number.total_cons, Number.total_cons, ih, Nat.add_assoc]

theorem overall_count (report : Report) :
    report.overall.count = Number.total (Operation.all.map report.count) := by
  have merged (entries : List (Operation × Latency.Histogram)) (start : Latency.Histogram) :
      (entries.foldl (fun merged entry => merged.merge entry.2) start).count =
        start.count + Number.total (entries.map (·.2.count)) := by
    induction entries generalizing start with
    | nil => rfl
    | cons first rest ih =>
      rw [List.foldl_cons, ih, Latency.Histogram.counts.merge, List.map_cons, Number.total_cons, Nat.add_assoc]
  have listed (all : List Operation) :
      Number.total ((all.filterMap fun operation =>
        (report.latency? operation).map fun held => (operation, held)).map (·.2.count)) =
      Number.total (all.map report.count) := by
    induction all with
    | nil => rfl
    | cons operation rest ih =>
      rw [List.filterMap_cons, List.map_cons, Number.total_cons, ← ih, count]
      cases report.latency? operation with
      | none => exact (Nat.zero_add _).symm
      | some held => rfl
  unfold overall
  rw [merged, Latency.Histogram.counts.empty, Nat.zero_add]
  exact listed Operation.all

theorem overall_record (report : Report) (operation : Operation) (nanoseconds : Nat) :
    (report.record operation nanoseconds).overall.count = report.overall.count + 1 := by
  rw [overall_count, overall_count]
  simp only [Operation.all, List.map_cons, List.map_nil, Number.total_cons, Number.total_nil, count_record]
  cases operation <;> simp only [reduceCtorEq, if_true, if_false] <;> omega

/-- So many slots were recorded on top of a report, each under the operation that its mix picks. -/
structure Extends (report later : Report) (mix : Mix) (slot slots : Nat) : Prop where
  operations : later.operations = report.operations + slots
  overall : later.overall.count = report.overall.count + slots
  misses : later.misses = report.misses
  counts : ∀ operation, later.count operation = report.count operation + mix.picked slot slots operation

theorem Extends.refl (report : Report) (mix : Mix) (slot : Nat) : report.Extends report mix slot 0 :=
  ⟨rfl, rfl, rfl, fun _ => rfl⟩

theorem Extends.cons {slots nanoseconds : Nat}
    (rest : (report.record (mix.pick slot) nanoseconds).Extends later mix (slot + 1) slots) :
    report.Extends later mix slot (slots + 1) where
  operations := by
    rw [rest.operations, operations_record]
    omega
  overall := by
    rw [rest.overall, overall_record]
    omega
  misses := rest.misses
  counts := by
    intro operation
    rw [rest.counts, count_record, Mix.picked_succ]
    omega

end Report

end SharedRecords.Workload
