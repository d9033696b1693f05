import Mathlib.Data.Nat.Periodic
import Mathlib.Data.Nat.Prime.Basic
import Mathlib.Tactic.NormNum.Prime
import SharedRecords.Workload.Mix

/-!
How a mix spreads its weights. In a window of as many slots as the weights come to, every operation is
picked as often as its weight says, unless the stride divides the total and not every weight.
-/

namespace SharedRecords.Workload.Mix

def picked (mix : Mix) (start count : Nat) (operation : Operation) : Nat :=
  (List.range' start count).countP fun slot => mix.pick slot = operation

theorem picked_succ (mix : Mix) (start count : Nat) (operation : Operation) :
    mix.picked start (count + 1) operation =
      mix.picked (start + 1) count operation + if mix.pick start = operation then 1 else 0 := by
  rw [picked, picked, List.range'_succ, List.countP_cons]
  simp only [decide_eq_true_eq]

def ahead (mix : Mix) : Operation → Nat
  | .read => 0
  | .scan => mix.read
  | .insert => mix.read + mix.scan
  | .update => mix.read + mix.scan + mix.insert

def places (mix : Mix) (operation : Operation) : Finset Nat :=
  Finset.Ico (mix.ahead operation) (mix.ahead operation + mix.weight operation)

variable {mix : Mix} {start slot : Nat} {operation : Operation}

theorem pick_eq_iff (weighty : 0 < mix.total) :
    mix.pick slot = operation ↔ mix.place slot ∈ mix.places operation := by
  have inside : mix.place slot < mix.total := by
    unfold place
    rw [Nat.max_eq_left weighty]
    exact Nat.mod_lt _ weighty
  unfold pick places
  simp only [total] at inside
  rw [Finset.mem_Ico]
  generalize mix.place slot = place at inside ⊢
  dsimp only
  split_ifs <;> cases operation <;>
    simp only [ahead, weight, reduceCtorEq, false_iff, true_iff] <;> omega

theorem ahead_add_weight_le (mix : Mix) (operation : Operation) :
    mix.ahead operation + mix.weight operation ≤ mix.total := by
  cases operation <;> simp only [ahead, weight, total] <;> omega

theorem places_subset (mix : Mix) (operation : Operation) : mix.places operation ⊆ Finset.range mix.total := by
  rw [Finset.range_eq_Ico]
  exact Finset.Ico_subset_Ico (Nat.zero_le _) (mix.ahead_add_weight_le operation)

theorem picked_window (fits : stride * (start + mix.total) < wordSize) :
    mix.picked start mix.total operation =
      Nat.count (fun slot => slot * stride % mix.total ∈ mix.places operation) mix.total := by
  rcases Nat.eq_zero_or_pos mix.total with none | weighty
  · rw [none]
    exact (Nat.count_zero _).symm
  have periodic :
      Function.Periodic (fun slot => slot * stride % mix.total ∈ mix.places operation) mix.total := by
    intro slot
    simp only [Nat.add_mul, Nat.add_mul_mod_self_left]
  have window : (Finset.Ico start (start + mix.total)).val = (List.range' start mix.total : Multiset Nat) := by
    show (List.range' start (start + mix.total - start) : Multiset Nat) = _
    rw [Nat.add_sub_cancel_left]
  rw [← Nat.filter_Ico_card_eq_of_periodic start mix.total _ periodic, Finset.card_def, Finset.filter_val, window,
    Multiset.filter_coe, Multiset.coe_card, ← List.countP_eq_length_filter]
  apply List.countP_congr
  intro slot member
  have below := (List.mem_range'_1.1 member).2
  have short : slot * stride < wordSize := by
    calc slot * stride = stride * slot := Nat.mul_comm _ _
      _ ≤ stride * (start + mix.total) := Nat.mul_le_mul_left _ below.le
      _ < wordSize := fits
  rw [decide_eq_true_iff, decide_eq_true_iff, pick_eq_iff weighty, place, Nat.mod_eq_of_lt short,
    Nat.max_eq_left weighty]

theorem stride_prime : stride.Prime := by
  unfold stride
  norm_num

theorem stride_injOn (coprime : Nat.Coprime mix.total stride) :
    Set.InjOn (· * stride % mix.total) (Finset.range mix.total : Set Nat) := by
  intro first early second late same
  rw [Finset.mem_coe, Finset.mem_range] at early late
  have alike : first ≡ second [MOD mix.total] := Nat.ModEq.cancel_right_of_coprime coprime same
  exact alike.eq_of_lt_of_lt early late

theorem image_stride (weighty : 0 < mix.total) (coprime : Nat.Coprime mix.total stride) :
    (Finset.range mix.total).image (· * stride % mix.total) = Finset.range mix.total := by
  apply Finset.eq_of_subset_of_card_le
  · intro place member
    obtain ⟨slot, _, rfl⟩ := Finset.mem_image.1 member
    exact Finset.mem_range.2 (Nat.mod_lt _ weighty)
  · rw [Finset.card_image_of_injOn (stride_injOn coprime)]

theorem picked_of_not_dvd (apart : ¬stride ∣ mix.total) (fits : stride * (start + mix.total) < wordSize)
    (operation : Operation) : mix.picked start mix.total operation = mix.weight operation := by
  have weighty : 0 < mix.total := Nat.pos_of_ne_zero fun none => apart (none ▸ Nat.dvd_zero stride)
  have coprime : Nat.Coprime mix.total stride := (stride_prime.coprime_iff_not_dvd.2 apart).symm
  have injective := (stride_injOn coprime).mono
    (Finset.coe_subset.2 (Finset.filter_subset (· * stride % mix.total ∈ mix.places operation) _))
  rw [picked_window fits, Nat.count_eq_card_filter_range, ← Finset.card_image_of_injOn injective,
    ← Finset.filter_image (p := (· ∈ mix.places operation)), image_stride weighty coprime,
    Finset.filter_mem_eq_inter, Finset.inter_eq_right.2 (mix.places_subset operation)]
  exact (Nat.card_Ico _ _).trans (Nat.add_sub_cancel_left _ _)

theorem count_of_periodic {holds : Nat → Prop} [DecidablePred holds] {period : Nat}
    (periodic : Function.Periodic holds period) (times : Nat) :
    Nat.count holds (times * period) = times * Nat.count holds period := by
  induction times with
  | zero => simp
  | succ times ih =>
    have shifted : (fun step => holds (times * period + step)) = holds := by
      funext step
      rw [Nat.add_comm]
      exact periodic.nat_mul times step
    simp only [Nat.succ_mul, Nat.count_add, ih, shifted]

theorem picked_of_dvd {turns : Nat} (divides : mix.total = stride * turns)
    (fits : stride * (start + mix.total) < wordSize) (operation : Operation) :
    mix.picked start mix.total operation =
      stride * Nat.count (fun slot => slot % turns * stride ∈ mix.places operation) turns := by
  have places (slot : Nat) : slot * stride % mix.total = slot % turns * stride := by
    rw [divides, Nat.mul_comm stride turns, Nat.mul_mod_mul_right]
  have periodic : Function.Periodic (fun slot => slot % turns * stride ∈ mix.places operation) turns := by
    intro slot
    simp only [Nat.add_mod_right]
  rw [picked_window fits]
  simp only [places]
  rw [divides]
  exact count_of_periodic periodic stride

/-- Of the multiples of the stride, those that fall to an operation are as many as the stride goes into its
weight, if it goes into all weights. -/
theorem count_multiples {turns : Nat} (divides : mix.total = stride * turns)
    (each : ∀ operation, stride ∣ mix.weight operation) (operation : Operation) :
    stride * Nat.count (fun slot => slot % turns * stride ∈ mix.places operation) turns =
      mix.weight operation := by
  have positive : 0 < stride := stride_prime.pos
  obtain ⟨first, ahead⟩ : stride ∣ mix.ahead operation := by
    cases operation with
    | read => exact Nat.dvd_zero _
    | scan => exact each .read
    | insert => exact Nat.dvd_add (each .read) (each .scan)
    | update => exact Nat.dvd_add (Nat.dvd_add (each .read) (each .scan)) (each .insert)
  obtain ⟨share, weight⟩ := each operation
  have within : first + share ≤ turns := by
    apply Nat.le_of_mul_le_mul_left _ positive
    rw [Nat.mul_add, ← ahead, ← weight, ← divides]
    exact mix.ahead_add_weight_le operation
  have same : (Finset.range turns).filter (fun slot => slot % turns * stride ∈ mix.places operation) =
      Finset.Ico first (first + share) := by
    ext slot
    have falls : slot * stride ∈ mix.places operation ↔ slot ∈ Finset.Ico first (first + share) := by
      rw [places, Finset.mem_Ico, Finset.mem_Ico, ahead, weight, ← Nat.mul_add, Nat.mul_comm slot,
        Nat.mul_le_mul_left_iff positive, Nat.mul_lt_mul_left positive]
    rw [Finset.mem_filter, Finset.mem_range]
    constructor
    · rintro ⟨early, member⟩
      rw [Nat.mod_eq_of_lt early] at member
      exact falls.1 member
    · intro member
      have early : slot < turns := (Finset.mem_Ico.1 member).2.trans_le within
      rw [Nat.mod_eq_of_lt early]
      exact ⟨early, falls.2 member⟩
  rw [Nat.count_eq_card_filter_range, same, Nat.card_Ico, Nat.add_sub_cancel_left, weight]

/-- A mix keeps its promise in every window, unless the stride divides the total weight and not every weight of
its own. -/
theorem spreads_evenly_iff (mix : Mix) (start : Nat) (fits : stride * (start + mix.total) < wordSize) :
    (∀ operation, mix.picked start mix.total operation = mix.weight operation) ↔
      (stride ∣ mix.total → ∀ operation, stride ∣ mix.weight operation) := by
  constructor
  · rintro even ⟨turns, divides⟩ operation
    rw [← even operation, picked_of_dvd divides fits]
    exact Nat.dvd_mul_right _ _
  · intro shared operation
    by_cases divisible : stride ∣ mix.total
    · obtain ⟨turns, divides⟩ := divisible
      rw [picked_of_dvd divides fits]
      exact count_multiples divides (shared ⟨turns, divides⟩) operation
    · exact picked_of_not_dvd divisible fits operation

/-- In any hundred slots, as many reads and updates as the mix says. -/
theorem mostlyReads_spreads : stride * (1000 + mostlyReads.total) < wordSize ∧
    mostlyReads.picked 1000 mostlyReads.total .read = 95 ∧ mostlyReads.picked 1000 mostlyReads.total .update = 5 := by
  have fits : stride * (1000 + mostlyReads.total) < wordSize := by decide
  have even := (spreads_evenly_iff mostlyReads 1000 fits).2 fun divides => absurd divides (by decide)
  exact ⟨fits, even .read, even .update⟩

/-- One read among as many operations as the stride counts. -/
def seldomReads : Mix := ⟨1, 0, 0, 7918⟩

/-- Where the stride divides the total, every slot of the window goes to the one read. -/
theorem seldomReads_lopsided : 1 ≤ seldomReads.total ∧ seldomReads.total ≤ 0xffffffff ∧
    stride * (0 + seldomReads.total) < wordSize ∧ seldomReads.picked 0 seldomReads.total .read = 7919 ∧
    ¬∀ operation, seldomReads.picked 0 seldomReads.total operation = seldomReads.weight operation := by
  have fits : stride * (0 + seldomReads.total) < wordSize := by decide
  have single : seldomReads.total = stride * 1 := rfl
  have reads : seldomReads.picked 0 seldomReads.total .read = 7919 := by
    rw [picked_of_dvd single fits]
    rfl
  refine ⟨by decide, by decide, fits, reads, fun even => ?_⟩
  have one : 7919 = 1 := reads.symm.trans (even .read)
  omega

end SharedRecords.Workload.Mix
