import SharedRecords.Channel.Poller

/-!
Deadlines. A poller that ever stops spinning compares the time with its deadline at least once in every 1024
looks. One that spins for as long as looks are counted does so only while they are counted: once the count
stays at its greatest value, a deadline passes unnoticed.
-/

namespace SharedRecords.Channel.Poller

variable {poller : Poller} {deadline waited : Duration} {looks : List Look}

def reads (poller : Poller) (look : Nat) : Bool := poller.readsClock (min look greatestCount)

theorem countLook_min (made : Nat) : countLook (min made greatestCount) = min (made + 1) greatestCount := by
  unfold countLook
  omega

theorem isOver_iff (timed : poller.deadline = some deadline) (look : Nat) (elapsed : Duration) :
    poller.isOver (min look greatestCount) elapsed = true ↔ poller.reads look = true ∧ deadline ≤ elapsed := by
  simp only [isOver, timed, reads, Bool.and_eq_true, decide_eq_true_eq]

/-! ## When the clock is read -/

theorem reads_iff (poller : Poller) (look : Nat) :
    poller.reads look = true ↔
      poller.spinLimit.toNat < min look greatestCount ∨ min look greatestCount % clockInterval = 0 := by
  simp only [reads, readsClock, isSpinning, Bool.or_eq_true, Bool.not_eq_true', decide_eq_false_iff_not,
    beq_iff_eq, Nat.not_le]

/-- A poller that ever stops spinning reads the clock once in every 1024 looks, and any poller does so up
to the last reading. -/
theorem reads_within {made : Nat} (counted : poller.spinLimit.toNat < greatestCount ∨ made < lastReading) :
    ∃ look, made < look ∧ look ≤ made + clockInterval ∧ poller.reads look = true := by
  by_cases inside : made < lastReading
  · -- the next multiple of the interval is still counted
    have counted : (made / clockInterval + 1) * clockInterval ≤ greatestCount := by
      simp only [lastReading, greatestCount, clockInterval] at inside ⊢
      omega
    refine ⟨(made / clockInterval + 1) * clockInterval, ?_, ?_, (poller.reads_iff _).2 (.inr ?_)⟩
    · simp only [clockInterval]
      omega
    · simp only [clockInterval]
      omega
    · rw [Nat.min_eq_left counted, Nat.mul_mod_left]
  · have stops := counted.resolve_right inside
    have last : greatestCount ≤ made + clockInterval := by
      simp only [lastReading, greatestCount, clockInterval] at inside ⊢
      omega
    refine ⟨made + clockInterval, Nat.lt_add_of_pos_right (by decide), Nat.le_refl _, ?_⟩
    rw [reads_iff, Nat.min_eq_right last]
    exact .inl stops

theorem not_reads_of_lt (spins : ¬ poller.spinLimit.toNat < greatestCount) {look : Nat} (beyond : lastReading < look) :
    poller.reads look = false := by
  rw [← Bool.not_eq_true, reads_iff]
  simp only [lastReading, greatestCount, clockInterval] at spins beyond ⊢
  omega

/-! ## What waiting comes to -/

/-- Waiting ended behind the look at this place, which found no flag and the deadline passed. -/
structure EndsAt (poller : Poller) (made : Nat) (looks : List Look) (place : Nat) (waited : Duration) : Prop where
  found : looks[place]? = some ⟨Wire.emptyFlag, waited⟩
  expired : poller.isOver (min (made + place + 1) greatestCount) waited = true
  before : ∀ earlier < place, ∀ look, looks[earlier]? = some look → look.flag = Wire.emptyFlag

theorem waitFrom_cons (poller : Poller) (made : Nat) {look : Look} (empty : look.flag = Wire.emptyFlag)
    (rest : List Look) : poller.waitFrom (min made greatestCount) (look :: rest) =
      if poller.isOver (min (made + 1) greatestCount) look.elapsed then .elapsed look.elapsed
      else poller.waitFrom (min (made + 1) greatestCount) rest := by
  rw [waitFrom, countLook_min, empty]
  rfl

theorem EndsAt.later {made place : Nat} {look : Look} {rest : List Look} (empty : look.flag = Wire.emptyFlag)
    (ends : poller.EndsAt (made + 1) rest place waited) : poller.EndsAt made (look :: rest) (place + 1) waited where
  found := ends.found
  expired := by
    rw [show made + (place + 1) + 1 = made + 1 + place + 1 by omega]
    exact ends.expired
  before earlier before other found := by
    cases earlier with
    | zero =>
      obtain rfl := Option.some.inj found
      exact empty
    | succ earlier => exact ends.before earlier (Nat.lt_of_succ_lt_succ before) other found

theorem endsAt_of_waitFrom (made : Nat)
    (elapsed : poller.waitFrom (min made greatestCount) looks = .elapsed waited) :
    ∃ place, poller.EndsAt made looks place waited := by
  induction looks generalizing made with
  | nil => contradiction
  | cons look rest ih =>
    by_cases empty : look.flag = Wire.emptyFlag
    · rw [waitFrom_cons poller made empty] at elapsed
      split at elapsed
      next expired =>
        obtain rfl := Wait.elapsed.inj elapsed
        refine ⟨0, ?_, expired, fun _ before => absurd before (Nat.not_lt_zero _)⟩
        rw [← empty]
        rfl
      next =>
        obtain ⟨place, ends⟩ := ih (made + 1) elapsed
        exact ⟨place + 1, ends.later empty⟩
    · rw [waitFrom_of_raised poller _ rest empty] at elapsed
      contradiction

theorem waitFrom_ends (made : Nat) {place : Nat}
    (empty : ∀ earlier ≤ place, ∀ look, looks[earlier]? = some look → look.flag = Wire.emptyFlag) {look : Look}
    (found : looks[place]? = some look)
    (expired : poller.isOver (min (made + place + 1) greatestCount) look.elapsed = true) :
    ∃ waited ended, poller.waitFrom (min made greatestCount) looks = .elapsed waited ∧ ended ≤ place ∧
      poller.EndsAt made looks ended waited := by
  induction looks generalizing made place with
  | nil => contradiction
  | cons first rest ih =>
    have first_empty := empty 0 (Nat.zero_le _) first rfl
    by_cases now : poller.isOver (min (made + 1) greatestCount) first.elapsed = true
    · have ended := waitFrom_cons poller made first_empty rest
      rw [if_pos now] at ended
      obtain ⟨place', ends⟩ := endsAt_of_waitFrom _ ended
      refine ⟨first.elapsed, 0, ended, Nat.zero_le _, ?_, now, fun _ before => absurd before (Nat.not_lt_zero _)⟩
      rw [← first_empty]
      rfl
    · cases place with
      | zero =>
        obtain rfl := Option.some.inj found
        exact absurd expired now
      | succ place =>
        rw [show made + (place + 1) + 1 = made + 1 + place + 1 by omega] at expired
        obtain ⟨waited, ended, same, before, ends⟩ :=
          ih (made + 1) (fun earlier before => empty (earlier + 1) (Nat.succ_le_succ before)) found expired
        rw [waitFrom_cons poller made first_empty, if_neg now]
        exact ⟨waited, ended + 1, same, Nat.succ_le_succ before, ends.later first_empty⟩

theorem waitFrom_goes_on (made : Nat)
    (pass : ∀ place look, looks[place]? = some look → look.flag = Wire.emptyFlag ∧
      poller.isOver (min (made + place + 1) greatestCount) look.elapsed = false) :
    poller.waitFrom (min made greatestCount) looks = .waiting := by
  induction looks generalizing made with
  | nil => rfl
  | cons first rest ih =>
    obtain ⟨empty, under⟩ := pass 0 first rfl
    rw [waitFrom_cons poller made empty, under]
    refine ih (made + 1) fun place look found => ?_
    rw [show made + 1 + place + 1 = made + (place + 1) + 1 by omega]
    exact pass (place + 1) look found

/-! ## Deadlines -/

def Compares (poller : Poller) (made : Nat) : Prop :=
  ∃ look, made < look ∧ look ≤ made + clockInterval ∧ poller.reads look = true

theorem compares_iff (poller : Poller) (made : Nat) :
    poller.Compares made ↔ poller.spinLimit.toNat < greatestCount ∨ made < lastReading := by
  refine ⟨fun ⟨look, behind, _, read⟩ => ?_, reads_within⟩
  rcases Nat.lt_or_ge poller.spinLimit.toNat greatestCount with stops | spins
  · exact .inl stops
  · rcases Nat.lt_or_ge made lastReading with inside | beyond
    · exact .inr inside
    · have unread := not_reads_of_lt (Nat.not_lt.2 spins) (Nat.lt_of_le_of_lt beyond behind)
      rw [unread] at read
      contradiction

theorem EndsAt.deadline_le {made place : Nat} (timed : poller.deadline = some deadline)
    (ends : poller.EndsAt made looks place waited) : deadline ≤ waited :=
  ((isOver_iff timed _ waited).1 ends.expired).2

theorem wait_goes_on (timed : poller.deadline = some deadline) (spins : ¬ poller.spinLimit.toNat < greatestCount)
    (empty : ∀ look ∈ looks, look.flag = Wire.emptyFlag)
    (early : ∀ place < lastReading, ∀ look, looks[place]? = some look → ¬ deadline ≤ look.elapsed) :
    poller.wait looks = .waiting := by
  refine waitFrom_goes_on 0 fun place look found => ?_
  refine ⟨empty look (List.mem_of_getElem? found), ?_⟩
  rw [← Bool.not_eq_true, isOver_iff timed, Nat.zero_add]
  rintro ⟨read, late⟩
  rcases Nat.lt_or_ge place lastReading with inside | beyond
  · exact early place inside look found late
  · rw [not_reads_of_lt spins (Nat.lt_succ_of_le beyond)] at read
    contradiction

/-- A poller compares the time with its deadline once in every 1024 looks exactly if it stops spinning, or as
long as looks are counted. Then it gives up within 1024 looks once the deadline has passed; a poller that
does not look at the clock any more, and that has not seen the deadline pass before, waits on forever. Whenever
waiting is given up, the last look found no flag, and the time it reports is not below the deadline. -/
theorem deadline_noticed (timed : poller.deadline = some deadline) (made : Nat) :
    (poller.Compares made ↔ poller.spinLimit.toNat < greatestCount ∨ made < lastReading) ∧
    (poller.Compares made → ∀ looks : List Look, made + clockInterval ≤ looks.length →
      (∀ place < made + clockInterval, ∀ look, looks[place]? = some look → look.flag = Wire.emptyFlag) →
      (∀ place ≥ made, ∀ look, looks[place]? = some look → deadline ≤ look.elapsed) →
      ∃ waited place, poller.wait looks = .elapsed waited ∧ place < made + clockInterval ∧
        poller.EndsAt 0 looks place waited ∧ deadline ≤ waited) ∧
    (¬ poller.Compares made → ∀ looks : List Look, (∀ look ∈ looks, look.flag = Wire.emptyFlag) →
      (∀ place < lastReading, ∀ look, looks[place]? = some look → ¬ deadline ≤ look.elapsed) →
      poller.wait looks = .waiting) ∧
    ∀ (looks : List Look) (waited : Duration), poller.wait looks = .elapsed waited →
      deadline ≤ waited ∧ ∃ place, poller.EndsAt 0 looks place waited := by
  refine ⟨poller.compares_iff made, ?_, ?_, ?_⟩
  · intro ⟨look, behind, within, read⟩ looks long empty late
    obtain ⟨place, rfl⟩ := Nat.exists_eq_add_one_of_ne_zero (Nat.ne_zero_of_lt behind)
    have inside : place < looks.length := Nat.lt_of_lt_of_le within long
    have found := List.getElem?_eq_getElem inside
    have expired := (isOver_iff timed (0 + place + 1) _).2
      ⟨by rwa [Nat.zero_add], late place (Nat.le_of_lt_succ behind) _ found⟩
    obtain ⟨waited, ended, given, before, ends⟩ := waitFrom_ends 0
      (fun earlier before => empty earlier (Nat.lt_of_le_of_lt before within)) found expired
    exact ⟨waited, ended, given, Nat.lt_of_le_of_lt before within, ends, ends.deadline_le timed⟩
  · intro misses looks empty early
    rw [compares_iff, not_or] at misses
    exact wait_goes_on timed misses.1 empty early
  · intro looks waited given
    obtain ⟨place, ends⟩ := endsAt_of_waitFrom 0 given
    exact ⟨ends.deadline_le timed, place, ends⟩

def patience : Duration := .ofMilliseconds 7200000

def lateLooks (made : Nat) : List Look :=
  List.replicate made ⟨Wire.emptyFlag, .zero⟩ ++ List.replicate clockInterval ⟨Wire.emptyFlag, patience⟩

theorem lateLooks_empty {made : Nat} {look : Look} (member : look ∈ lateLooks made) :
    look.flag = Wire.emptyFlag := by
  rcases List.mem_append.1 member with early | late
  · rw [List.eq_of_mem_replicate early]
  · rw [List.eq_of_mem_replicate late]

theorem lateLooks_early {made place : Nat} {look : Look} (inside : place < made)
    (found : (lateLooks made)[place]? = some look) : look.elapsed = .zero := by
  rw [lateLooks, List.getElem?_append_left (by rwa [List.length_replicate])] at found
  rw [List.eq_of_mem_replicate (List.mem_of_getElem? found)]

theorem lateLooks_late {made place : Nat} {look : Look} (beyond : made ≤ place)
    (found : (lateLooks made)[place]? = some look) : look.elapsed = patience := by
  rw [lateLooks, List.getElem?_append_right (by rwa [List.length_replicate])] at found
  rw [List.eq_of_mem_replicate (List.mem_of_getElem? found)]

/-- A poller that stops spinning at the last look that is counted, and only there. -/
def nearlyEndless : Poller := ⟨.sleep (.ofMicroseconds 1), 0xfffffffe, some patience⟩

theorem nearlyEndless_noticed :
    nearlyEndless.deadline = some patience ∧ nearlyEndless.Compares 0x100000000 ∧
      ∃ waited, nearlyEndless.wait (lateLooks 0x100000000) = .elapsed waited ∧ patience ≤ waited := by
  have timed : nearlyEndless.deadline = some patience := rfl
  obtain ⟨compares, gives, _⟩ := deadline_noticed timed 0x100000000
  have noticed := compares.2 (.inl (by decide))
  obtain ⟨waited, _, given, _, _, late⟩ := gives noticed (lateLooks 0x100000000)
    (Nat.le_of_eq (by rw [lateLooks, List.length_append, List.length_replicate, List.length_replicate]))
    (fun _ _ _ found => lateLooks_empty (List.mem_of_getElem? found))
    (fun _ beyond _ found => lateLooks_late beyond found ▸ Nat.le_refl _)
  exact ⟨timed, noticed, waited, given, late⟩

def endless : Poller := ⟨.spin, 0xffffffff, some patience⟩

/-- The deadline has passed when looks are not counted any more, and none of 1024 further looks notices. -/
theorem endless_unnoticed :
    ¬ endless.Compares lastReading ∧ endless.wait (lateLooks lastReading) = .waiting := by
  have spins : ¬ endless.spinLimit.toNat < greatestCount := by decide
  refine ⟨?_, wait_goes_on rfl spins (fun _ => lateLooks_empty) ?_⟩
  · rw [compares_iff]
    exact not_or.2 ⟨spins, Nat.lt_irrefl _⟩
  · intro place inside look found
    rw [lateLooks_early inside found]
    decide

theorem wait_of_settle {pace : Duration} (timed : poller.deadline = some deadline)
    (settles : poller.settle pace Wire.emptyFlag = .waiting) (empty : ∀ look ∈ looks, look.flag = Wire.emptyFlag)
    (paced : ∀ place look, looks[place]? = some look →
      look.elapsed.nanoseconds ≤ (place + 1) * pace.nanoseconds) :
    poller.wait looks = .waiting := by
  have unnoticed : poller.notices pace deadline = false := by
    simp only [settle, timed, bne_self_eq_false, Bool.false_eq_true, if_false] at settles
    cases noticed : poller.notices pace deadline with
    | false => rfl
    | true =>
      rw [noticed, if_pos rfl] at settles
      contradiction
  simp only [notices, isSpinning, Bool.or_eq_false_iff, Bool.not_eq_false', decide_eq_true_eq,
    decide_eq_false_iff_not, Nat.not_le] at unnoticed
  obtain ⟨spins, beyond⟩ := unnoticed
  refine wait_goes_on timed (Nat.not_lt.2 spins) empty fun place inside look found late => ?_
  have quick := paced place look found
  have bound : (place + 1) * pace.nanoseconds ≤ lastReading * pace.nanoseconds :=
    Nat.mul_le_mul_right _ inside
  exact Nat.lt_irrefl _ (Nat.lt_of_lt_of_le beyond (Nat.le_trans late (Nat.le_trans quick bound)))

end SharedRecords.Channel.Poller
