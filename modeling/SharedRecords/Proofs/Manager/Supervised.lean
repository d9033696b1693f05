import SharedRecords.Proofs.Manager.Supervision

/-!
What holds of the list of sessions however threads share it: every session that was put on it is there or in one
other place, and what was told of a session is how that session ended.
-/

namespace SharedRecords.Manager

namespace Launch

theorem launched_reliable (id : SessionId) (holding : Session.Holding) : (launched id holding).Reliable :=
  ⟨trivial, trivial, fun listed => absurd rfl listed⟩

theorem Reliable.enrolled {launch : Launch} (reliable : launch.Reliable) (started : launch.progress.HasStarted) :
    Reliable { launch with listing := .listed } :=
  ⟨reliable.orderly, reliable.known, fun _ => started⟩

end Launch

namespace Supervision

variable {options : Session.Options} {state later : Supervision} {thread : Nat} {launch moved : Launch}
  {monitor : Monitor} {resources : Session.Resources} {launches : List Launch} {id : SessionId}

/-- Every session is run by the thread that ran it, stays on record, and has ended as it had. -/
def Onward (state later : Supervision) : Prop :=
  ∀ (thread : Nat) (launch : Launch), state.launches[thread]? = some launch →
    ∃ moved, later.launches[thread]? = some moved ∧ moved.id = launch.id ∧
      (launch.listing = .listed → moved.listing = .listed) ∧
      ∀ result, launch.result? = some result → moved.result? = some result

namespace Onward

theorem of_same (same : later.launches = state.launches) : state.Onward later := by
  intro thread launch runs
  rw [same]
  exact ⟨launch, runs, rfl, fun listed => listed, fun _ told => told⟩

theorem append (launches : List Launch) (resources : Session.Resources) :
    state.Onward { state with resources, launches := state.launches ++ launches } := by
  intro thread launch runs
  have within : thread < state.launches.length := (List.getElem?_eq_some_iff.mp runs).1
  refine ⟨launch, ?_, rfl, fun listed => listed, fun _ told => told⟩
  exact (List.getElem?_append_left within).trans runs

theorem set (place : later.launches = state.launches.set thread moved) (runs : state.launches[thread]? = some launch)
    (same : moved.id = launch.id) (listed : launch.listing = .listed → moved.listing = .listed)
    (told : ∀ result, launch.result? = some result → moved.result? = some result) : state.Onward later := by
  intro other found there
  rw [place]
  by_cases at_place : thread = other
  · subst at_place
    obtain rfl := Option.some.inj (there.symm.trans runs)
    have within := (List.getElem?_eq_some_iff.mp runs).1
    exact ⟨moved, List.getElem?_set_self within, same, listed, told⟩
  · refine ⟨found, ?_, rfl, fun listed => listed, fun _ told => told⟩
    exact (List.getElem?_set_ne at_place).trans there

theorem minds (onward : state.Onward later) (minds : state.Knows monitor) : later.Knows monitor := by
  obtain ⟨launch, runs, named⟩ := minds
  obtain ⟨moved, there, same, _⟩ := onward _ launch runs
  exact ⟨moved, there, same.trans named⟩

theorem told {entry : SessionId × Except Session.Error Session.Summary} (onward : state.Onward later)
    (told : state.Told entry) : later.Told entry := by
  obtain ⟨thread, launch, runs, named, ended⟩ := told
  obtain ⟨moved, there, same, _, still⟩ := onward thread launch runs
  exact ⟨thread, moved, there, same.trans named, still _ ended⟩

theorem hasEnded (onward : state.Onward later) (ended : state.hasEnded monitor = true) :
    later.hasEnded monitor = true := by
  obtain ⟨result, told⟩ := Option.isSome_iff_exists.mp ended
  obtain ⟨launch, runs, told⟩ := Option.bind_eq_some_iff.mp told
  obtain ⟨moved, there, _, _, still⟩ := onward _ launch runs
  exact Option.isSome_iff_exists.mpr ⟨result, Option.bind_eq_some_iff.mpr ⟨moved, there, still result told⟩⟩

theorem ripe {batch : Batch} (onward : state.Onward later) (ripe : batch.Ripe state) : batch.Ripe later :=
  ⟨fun monitor member => onward.hasEnded (ripe.ended monitor member), ripe.due⟩

theorem batches {batches : List Batch} (onward : state.Onward later)
    (held : ∀ batch ∈ batches, batch.Ripe state ∧ ∀ monitor ∈ batch.monitors, state.Knows monitor) :
    ∀ batch ∈ batches, batch.Ripe later ∧ ∀ monitor ∈ batch.monitors, later.Knows monitor := by
  intro batch member
  obtain ⟨ripe, minds⟩ := held batch member
  exact ⟨onward.ripe ripe, fun monitor taken => onward.minds (minds monitor taken)⟩

end Onward

theorem Onward.fair {sweep : Sweep} (fair : sweep.Fair state) (onward : state.Onward later)
    (same : later.watched = state.watched) : sweep.Fair later := by
  constructor
  · rw [same]
    exact fair.pending
  · rw [same]
    exact fun monitor member found => onward.hasEnded (fair.found monitor member found)
  · rw [same]
    exact fair.listed
  · intro id due
    rcases fair.due id due with found | ⟨monitor, member, named, ended⟩
    · exact .inl found
    · exact .inr ⟨monitor, member, named, onward.hasEnded ended⟩

theorem Kept.moves (kept : state.Kept) (onward : state.Onward { state with resources, launches })
    (reliable : ∀ launch ∈ launches, launch.Reliable)
    (numbered : ∀ (thread : Nat) (launch : Launch), launches[thread]? = some launch → launch.id = number thread)
    (enrolled : ∀ id, Enrolled { state with resources, launches } id → state.Enrolled id) :
    Kept { state with resources, launches } where
  reliable := reliable
  numbered := numbered
  once := kept.once
  enrolled id := by
    refine (kept.enrolled id).trans ⟨?_, enrolled id⟩
    rintro ⟨thread, launch, runs, named, listed⟩
    obtain ⟨moved, there, same, still, _⟩ := onward thread launch runs
    exact ⟨thread, moved, there, same.trans named, still listed⟩
  watched monitor member := onward.minds (kept.watched monitor member)
  joining monitor member := onward.minds (kept.joining monitor member)
  batches := onward.batches kept.batches
  sweep sweep held := onward.fair (kept.sweep sweep held) rfl
  told entry member := onward.told (kept.told entry member)
  answers := kept.answers

theorem Kept.of_launch (kept : state.Kept) (holding : Session.Holding) :
    Kept { state with launches := state.launches ++ [.launched (number state.launches.length) holding] } := by
  let fresh := Launch.launched (number state.launches.length) holding
  have either {thread : Nat} {launch : Launch} (runs : (state.launches ++ [fresh])[thread]? = some launch) :
      state.launches[thread]? = some launch ∨ thread = state.launches.length ∧ launch = fresh := by
    grind
  apply kept.moves (Onward.append [fresh] state.resources)
  · exact List.forall_mem_append.mpr
      ⟨kept.reliable, List.forall_mem_singleton.mpr (Launch.launched_reliable _ holding)⟩
  · intro thread launch runs
    rcases either runs with old | ⟨rfl, rfl⟩
    · exact kept.numbered thread launch old
    · rfl
  · rintro id ⟨thread, launch, runs, named, listed⟩
    rcases either runs with old | ⟨_, rfl⟩
    · exact ⟨thread, launch, old, named, listed⟩
    · cases listed

theorem set_either {other : Nat} {found : Launch} (runs : state.launches[thread]? = some launch)
    (there : (state.launches.set thread moved)[other]? = some found) :
    other = thread ∧ found = moved ∨ other ≠ thread ∧ state.launches[other]? = some found := by
  grind

theorem Kept.set_reliable (kept : state.Kept) (reliable : moved.Reliable) :
    ∀ launch ∈ state.launches.set thread moved, launch.Reliable := by
  intro launch member
  rcases List.mem_or_eq_of_mem_set member with old | rfl
  · exact kept.reliable launch old
  · exact reliable

theorem Kept.set_numbered (kept : state.Kept) (runs : state.launches[thread]? = some launch)
    (same : moved.id = launch.id) (other : Nat) (found : Launch)
    (there : (state.launches.set thread moved)[other]? = some found) : found.id = number other := by
  rcases set_either runs there with ⟨rfl, rfl⟩ | ⟨_, old⟩
  · exact same.trans (kept.numbered other launch runs)
  · exact kept.numbered other found old

theorem Kept.act {services : List Session.Service} {after : Session.Resources} (kept : state.Kept)
    (runs : state.launches[thread]? = some launch)
    (act : Launch.Act options (launch, state.resources) services (moved, after))
    (listing : moved.listing = launch.listing) :
    Kept { state with resources := after, launches := state.launches.set thread moved } := by
  have reliable : launch.Reliable := kept.reliable launch (List.mem_of_getElem? runs)
  have same : moved.id = launch.id := act.id_eq
  apply kept.moves
  · exact Onward.set rfl runs same (fun listed => listing.trans listed) fun _ told => act.result?_stays reliable told
  · exact kept.set_reliable (act.reliable reliable)
  · exact kept.set_numbered runs same
  · rintro id ⟨other, found, there, named, listed⟩
    rcases set_either runs there with ⟨rfl, rfl⟩ | ⟨_, old⟩
    · exact ⟨other, launch, runs, same.symm.trans named, listing.symm.trans listed⟩
    · exact ⟨other, found, old, named, listed⟩

/-! ## The list -/

theorem Kept.thread_unique {other : Nat} {another : Launch} (kept : state.Kept)
    (within : state.launches.length ≤ UInt64.size) (runs : state.launches[thread]? = some launch)
    (there : state.launches[other]? = some another) (same : launch.id = another.id) : thread = other := by
  have below := (List.getElem?_eq_some_iff.mp runs).1
  have behind := (List.getElem?_eq_some_iff.mp there).1
  have numbers : number thread = number other :=
    calc number thread
      _ = launch.id := (kept.numbered thread launch runs).symm
      _ = another.id := same
      _ = number other := kept.numbered other another there
  rcases Nat.lt_trichotomy thread other with before | same | after
  · exact absurd numbers (number_ne before (by omega))
  · exact same
  · exact absurd numbers.symm (number_ne after (by omega))

theorem Kept.launch_unique {other : Launch} (kept : state.Kept) (within : state.launches.length ≤ UInt64.size)
    (member : launch ∈ state.launches) (there : other ∈ state.launches) (same : launch.id = other.id) :
    launch = other := by
  obtain ⟨thread, runs⟩ := List.mem_iff_getElem?.mp member
  obtain ⟨place, stands⟩ := List.mem_iff_getElem?.mp there
  obtain rfl := kept.thread_unique within runs stands same
  exact Option.some.inj (runs.symm.trans stands)

theorem Kept.enrolled_iff (kept : state.Kept) (within : state.launches.length ≤ UInt64.size)
    (member : launch ∈ state.launches) :
    launch.id ∈ state.custody ↔ launch.listing = .listed := by
  rw [kept.enrolled]
  constructor
  · rintro ⟨thread, other, runs, same, listed⟩
    rw [kept.launch_unique within member (List.mem_of_getElem? runs) same.symm]
    exact listed
  · intro listed
    obtain ⟨thread, runs⟩ := List.mem_iff_getElem?.mp member
    exact ⟨thread, launch, runs, rfl, listed⟩

theorem Kept.enroll (kept : state.Kept) (within : state.launches.length ≤ UInt64.size) (free : state.sweep = none)
    (runs : state.launches[thread]? = some launch) (started : launch.progress.HasStarted)
    (unlisted : launch.listing = .unlisted) :
    Kept
      { state with
        launches := state.launches.set thread { launch with listing := .listed }
        watched := ⟨launch.id, thread⟩ :: state.watched.eraseP (·.id = launch.id) } := by
  have fresh : launch.id ∉ state.custody := by
    rw [kept.enrolled_iff within (List.mem_of_getElem? runs), unlisted]
    exact nofun
  have none : state.watched.eraseP (·.id = launch.id) = state.watched := by
    apply List.eraseP_of_forall_not
    intro monitor member named
    exact fresh (List.mem_append_left _ (List.mem_map.mpr ⟨monitor, member, of_decide_eq_true named⟩))
  rw [none]
  have listed : (state.launches.set thread { launch with listing := .listed })[thread]? = some _ :=
    List.getElem?_set_self (List.getElem?_eq_some_iff.mp runs).1
  have onward {watched : List Monitor} : state.Onward
      { state with launches := state.launches.set thread { launch with listing := .listed }, watched } :=
    Onward.set rfl runs rfl (fun _ => rfl) fun _ told => told
  exact {
    reliable := kept.set_reliable ((kept.reliable launch (List.mem_of_getElem? runs)).enrolled started)
    numbered := kept.set_numbered runs rfl
    once := List.nodup_cons.mpr ⟨fresh, kept.once⟩
    enrolled := fun id => by
      refine List.mem_cons.trans ⟨?_, ?_⟩
      · rintro (rfl | member)
        · exact ⟨thread, _, listed, rfl, rfl⟩
        · obtain ⟨other, found, there, named, enrolled⟩ := (kept.enrolled id).mp member
          obtain ⟨moved, place, same, still, _⟩ := @onward state.watched other found there
          exact ⟨other, moved, place, same.trans named, still enrolled⟩
      · rintro ⟨other, found, there, named, enrolled⟩
        rcases set_either runs there with ⟨rfl, rfl⟩ | ⟨_, old⟩
        · exact .inl named.symm
        · exact .inr ((kept.enrolled id).mpr ⟨other, found, old, named, enrolled⟩)
    watched := List.forall_mem_cons.mpr
      ⟨⟨_, listed, rfl⟩, fun monitor member => onward.minds (kept.watched monitor member)⟩
    joining := fun monitor member => onward.minds (kept.joining monitor member)
    batches := onward.batches kept.batches
    sweep := fun sweep held => nomatch free.symm.trans held
    told := fun entry member => onward.told (kept.told entry member)
    answers := kept.answers }

/-! ## What is taken off the list -/

theorem Kept.rearrange (kept : state.Kept) (same : later.launches = state.launches)
    (all : later.custody.Perm state.custody) (watched : ∀ monitor ∈ later.watched, monitor ∈ state.watched)
    (joining : ∀ monitor ∈ later.joining, state.Knows monitor)
    (batches : ∀ batch ∈ later.batches, batch.Ripe state ∧ ∀ monitor ∈ batch.monitors, state.Knows monitor)
    (sweep : ∀ sweep, later.sweep = some sweep → sweep.Fair later) (told : ∀ entry ∈ later.handed, state.Told entry)
    (answers : ∀ answer ∈ later.answers, answer.Complete) : later.Kept := by
  have onward : state.Onward later := .of_same same
  have enrolled (id : SessionId) : state.Enrolled id ↔ later.Enrolled id := by
    unfold Enrolled
    rw [same]
  exact {
    reliable := same ▸ kept.reliable
    numbered := same ▸ kept.numbered
    once := all.nodup_iff.mpr kept.once
    enrolled := fun id => (all.mem_iff.trans (kept.enrolled id)).trans (enrolled id)
    watched := fun monitor member => onward.minds (kept.watched monitor (watched monitor member))
    joining := fun monitor member => onward.minds (joining monitor member)
    batches := onward.batches batches
    sweep := sweep
    told := fun entry member => onward.told (told entry member)
    answers := answers }

@[simp]
theorem handed_answer (state : Supervision) (answer : Answer) :
    (state.answer answer).handed = state.handed ++ answer.handed := by
  simp [handed, Supervision.answer]

theorem Kept.say {answer : Answer} (kept : state.Kept) (silent : answer.handed = []) (complete : answer.Complete) :
    (state.answer answer).Kept := by
  have handed : (state.answer answer).handed = state.handed := by simp [silent]
  apply kept.rearrange
  · rfl
  · unfold custody collected
    rw [handed]
    exact .refl _
  · exact fun _ member => member
  · exact kept.joining
  · exact kept.batches
  · exact fun sweep held => Onward.fair (kept.sweep sweep held) (.of_same rfl) rfl
  · exact handed ▸ kept.told
  · exact List.forall_mem_append.mpr ⟨kept.answers, List.forall_mem_singleton.mpr complete⟩

theorem Kept.join (kept : state.Kept) (free : state.sweep = none) (id : SessionId) : (state.join id).Kept := by
  unfold Supervision.join
  split
  next => exact kept.say rfl trivial
  next monitor found =>
    have taken := Monitor.perm_of_find? found
    have member : monitor ∈ state.watched := List.mem_of_find?_eq_some found
    apply kept.rearrange
    · rfl
    · refine List.perm_iff_count.mpr fun one => ?_
      have count := (taken.map (·.id)).count_eq one
      simp only [custody, collected, handed, List.map_append, List.map_cons, List.map_nil, List.count_append,
        List.count_cons, List.count_nil] at count ⊢
      omega
    · exact fun _ => List.mem_of_mem_eraseP
    · exact List.forall_mem_append.mpr
        ⟨kept.joining, List.forall_mem_singleton.mpr (kept.watched monitor member)⟩
    · exact kept.batches
    · exact fun sweep held => nomatch free.symm.trans held
    · exact kept.told
    · exact kept.answers

theorem Kept.finish {early late : List Monitor} {result : Except Session.Error Session.Summary} (kept : state.Kept)
    (waits : state.joining = early ++ monitor :: late) (ended : state.result? monitor.thread = some result) :
    Kept ({ state with joining := early ++ late }.answer (.joined monitor.id result)) := by
  have joining := kept.joining
  rw [waits] at joining
  obtain ⟨first, others⟩ := List.forall_mem_append.mp joining
  obtain ⟨⟨launch, runs, named⟩, last⟩ := List.forall_mem_cons.mp others
  have told : launch.result? = some result := by
    unfold result? at ended
    rw [runs] at ended
    exact ended
  apply kept.rearrange
  · rfl
  · refine List.perm_iff_count.mpr fun one => ?_
    unfold custody collected
    rw [handed_answer]
    simp only [waits, handed, Supervision.answer, Answer.handed, List.map_append, List.map_cons, List.map_nil,
      List.count_append, List.count_cons, List.count_nil]
    omega
  · exact fun _ member => member
  · exact List.forall_mem_append.mpr ⟨first, last⟩
  · exact kept.batches
  · exact fun sweep held => Onward.fair (kept.sweep sweep held) (.of_same rfl) rfl
  · rw [handed_answer]
    exact List.forall_mem_append.mpr ⟨kept.told, List.forall_mem_singleton.mpr ⟨_, launch, runs, named, told⟩⟩
  · exact List.forall_mem_append.mpr ⟨kept.answers, List.forall_mem_singleton.mpr trivial⟩

/-! ## Reaping -/

theorem mem_due : id ∈ state.due ↔ ∃ monitor ∈ state.watched, monitor.id = id ∧ state.hasEnded monitor = true := by
  simp only [due, List.mem_map, List.mem_filter]
  grind

theorem Kept.lock {pending : List Monitor} (kept : state.Kept) (all : pending.Perm state.watched) :
    Kept { state with sweep := some ⟨pending, [], state.due⟩ } := by
  refine kept.rearrange rfl (.refl _) (fun _ member => member) kept.joining kept.batches ?_ kept.told kept.answers
  rintro sweep ⟨⟩
  have due (id : SessionId) (member : id ∈ state.due) := mem_due.mp member
  exact {
    pending := fun monitor member => all.mem_iff.mp member
    found := fun _ _ found => absurd found List.not_mem_nil
    listed := fun id member =>
      have ⟨monitor, listed, named, _⟩ := due id member
      List.mem_map.mpr ⟨monitor, listed, named⟩
    due := fun id member =>
      have ⟨monitor, listed, named, ended⟩ := due id member
      .inr ⟨monitor, all.mem_iff.mpr listed, named, ended⟩ }

theorem Kept.examine {rest : List Monitor} {found due : List SessionId} (kept : state.Kept)
    (sweeps : state.sweep = some ⟨monitor :: rest, found, due⟩) :
    Kept
      { state with
        sweep := some ⟨rest, if state.hasEnded monitor then found ++ [monitor.id] else found, due⟩ } := by
  have fair := kept.sweep _ sweeps
  obtain ⟨listed, pending⟩ := List.forall_mem_cons.mp fair.pending
  have once : (state.watched.map (·.id)).Nodup := (List.nodup_append.mp kept.once).1
  refine kept.rearrange rfl (.refl _) (fun _ member => member) kept.joining kept.batches ?_ kept.told kept.answers
  rintro sweep ⟨⟩
  refine ⟨pending, fun other member found => ?_, fair.listed, fun id member => ?_⟩
  · by_cases ended : state.hasEnded monitor = true
    · dsimp only at found
      rw [if_pos ended] at found
      rcases List.mem_append.mp found with old | new
      · exact fair.found other member old
      · obtain rfl := List.inj_on_of_nodup_map once member listed (List.mem_singleton.mp new)
        exact ended
    · dsimp only at found
      rw [if_neg ended] at found
      exact fair.found other member found
  · dsimp only
    rcases fair.due id member with old | ⟨other, waiting, named, ended⟩
    · refine .inl ?_
      split
      · exact List.mem_append_left _ old
      · exact old
    · rcases List.mem_cons.mp waiting with rfl | later
      · rw [if_pos ended]
        exact .inl (List.mem_append_right _ (List.mem_singleton.mpr named.symm))
      · exact .inr ⟨other, later, named, ended⟩

theorem Kept.unlock {found due : List SessionId} (kept : state.Kept)
    (sweeps : state.sweep = some ⟨[], found, due⟩) :
    Kept
      { state with
        watched := (Monitor.withdraw found state.watched).2
        sweep := none
        batches := state.batches ++ [⟨(Monitor.withdraw found state.watched).1, due⟩] } := by
  have fair := kept.sweep _ sweeps
  have all := Monitor.withdraw_perm found state.watched
  have taken (monitor : Monitor) (member : monitor ∈ (Monitor.withdraw found state.watched).1) :
      monitor ∈ state.watched := all.mem_iff.mp (List.mem_append_left _ member)
  have ripe : Batch.Ripe ⟨(Monitor.withdraw found state.watched).1, due⟩ state := by
    constructor
    · exact fun monitor member => fair.found monitor (taken monitor member) (Monitor.withdraw_named member)
    · intro id member
      refine Monitor.withdraw_all ((fair.due id member).resolve_right ?_) (fair.listed id member)
      rintro ⟨_, waiting, _⟩
      exact List.not_mem_nil waiting
  apply kept.rearrange
  · rfl
  · refine List.perm_iff_count.mpr fun one => ?_
    have count := (all.map (·.id)).count_eq one
    simp only [custody, collected, handed, List.map_append, List.flatMap_append, List.flatMap_singleton,
      List.count_append] at count ⊢
    omega
  · exact fun monitor member => all.mem_iff.mp (List.mem_append_right _ member)
  · exact kept.joining
  · refine List.forall_mem_append.mpr ⟨kept.batches, List.forall_mem_singleton.mpr ⟨ripe, fun monitor member => ?_⟩⟩
    exact kept.watched monitor (taken monitor member)
  · exact nofun
  · exact kept.told
  · exact kept.answers

theorem mem_outcomes {monitors : List Monitor} {entry : SessionId × Except Session.Error Session.Summary} :
    entry ∈ state.outcomes monitors ↔
      ∃ monitor ∈ monitors, monitor.id = entry.1 ∧ state.result? monitor.thread = some entry.2 := by
  unfold outcomes
  rw [(SessionId.arrange_perm _ _).mem_iff, List.mem_filterMap]
  constructor
  · rintro ⟨monitor, member, told⟩
    obtain ⟨result, ended, rfl⟩ := Option.map_eq_some_iff.mp told
    exact ⟨monitor, member, rfl, ended⟩
  · rintro ⟨monitor, member, named, ended⟩
    exact ⟨monitor, member, Option.map_eq_some_iff.mpr ⟨_, ended, Prod.ext named rfl⟩⟩

theorem outcomes_ids {monitors : List Monitor} (ended : ∀ monitor ∈ monitors, state.hasEnded monitor = true) :
    ((state.outcomes monitors).map (·.1)).Perm (monitors.map (·.id)) := by
  refine ((SessionId.arrange_perm _ _).map _).trans (.of_eq ?_)
  induction monitors with
  | nil => rfl
  | cons monitor rest ih =>
    obtain ⟨first, others⟩ := List.forall_mem_cons.mp ended
    obtain ⟨result, told⟩ := Option.isSome_iff_exists.mp first
    rw [List.filterMap_cons, told]
    exact congrArg _ (ih others)

theorem outcomes_ascending {monitors : List Monitor} (ended : ∀ monitor ∈ monitors, state.hasEnded monitor = true)
    (once : (monitors.map (·.id)).Nodup) : SessionId.Ascending (·.1) (state.outcomes monitors) := by
  apply SessionId.arrange_ascending
  have all := ((SessionId.arrange_perm _ _).map _).symm.trans (outcomes_ids ended)
  exact all.nodup_iff.mpr once

theorem Kept.batch_once {batch : Batch} (kept : state.Kept) (member : batch ∈ state.batches) :
    (batch.monitors.map (·.id)).Nodup := by
  have collected := (List.nodup_append.mp kept.once).2.1
  have batches := (List.nodup_append.mp (List.nodup_append.mp collected).2.1).1
  exact (List.nodup_flatMap.mp batches).1 batch member

theorem Kept.deliver {early late : List Batch} {batch : Batch} (kept : state.Kept)
    (waits : state.batches = early ++ batch :: late) :
    Kept ({ state with batches := early ++ late }.answer (.reaped batch.due (state.outcomes batch.monitors))) := by
  have batches := kept.batches
  rw [waits] at batches
  obtain ⟨first, others⟩ := List.forall_mem_append.mp batches
  obtain ⟨⟨ripe, minds⟩, last⟩ := List.forall_mem_cons.mp others
  have ids := outcomes_ids ripe.ended
  have once : (batch.monitors.map (·.id)).Nodup := by
    apply kept.batch_once
    simp [waits]
  apply kept.rearrange
  · rfl
  · refine List.perm_iff_count.mpr fun one => ?_
    have count := ids.count_eq one
    unfold custody collected
    rw [handed_answer]
    simp only [waits, handed, Supervision.answer, Answer.handed, List.map_append, List.flatMap_append,
      List.flatMap_cons, List.count_append] at count ⊢
    omega
  · exact fun _ member => member
  · exact kept.joining
  · exact List.forall_mem_append.mpr ⟨first, last⟩
  · exact fun sweep held => Onward.fair (kept.sweep sweep held) (.of_same rfl) rfl
  · rw [handed_answer]
    refine List.forall_mem_append.mpr ⟨kept.told, fun entry member => ?_⟩
    obtain ⟨monitor, member, named, ended⟩ := mem_outcomes.mp member
    obtain ⟨launch, runs, same⟩ := minds monitor member
    unfold result? at ended
    rw [runs] at ended
    exact ⟨_, launch, runs, same.trans named, ended⟩
  · refine List.forall_mem_append.mpr ⟨kept.answers, List.forall_mem_singleton.mpr ⟨?_, fun id due => ?_⟩⟩
    · exact outcomes_ascending ripe.ended once
    · exact ids.mem_iff.mpr (ripe.due id due)

theorem Step.length_le (step : Step options state later) : state.launches.length ≤ later.launches.length := by
  cases step with
  | launch => simp
  | act | enroll => simp
  | join =>
    unfold Supervision.join
    split <;> exact Nat.le_refl _
  | finish | list | lock | examine | unlock | deliver | meanwhile => exact Nat.le_refl _

theorem Step.kept (step : Step options state later) (within : state.launches.length ≤ UInt64.size)
    (kept : state.Kept) : later.Kept := by
  cases step with
  | launch holding => exact kept.of_launch holding
  | act runs act listing => exact kept.act runs act listing
  | enroll free runs started unlisted => exact kept.enroll within free runs started unlisted
  | join free id => exact kept.join free id
  | finish waits ended => exact kept.finish waits ended
  | list => exact kept.say rfl trivial
  | lock free all => exact kept.lock all
  | examine sweeps => exact kept.examine sweeps
  | unlock sweeps => exact kept.unlock sweeps
  | deliver waits => exact kept.deliver waits
  | meanwhile => exact kept.moves (.of_same rfl) kept.reliable kept.numbered fun _ enrolled => enrolled

theorem opened_kept (resources : Session.Resources) : (opened resources).Kept where
  reliable _ member := absurd member List.not_mem_nil
  numbered _ _ runs := by cases runs
  once := .nil
  enrolled id := ⟨fun member => absurd member List.not_mem_nil, fun ⟨_, _, runs, _⟩ => by cases runs⟩
  watched _ member := absurd member List.not_mem_nil
  joining _ member := absurd member List.not_mem_nil
  batches _ member := absurd member List.not_mem_nil
  sweep _ held := nomatch held
  told _ member := absurd member List.not_mem_nil
  answers _ member := absurd member List.not_mem_nil

/-- A run keeps what each of its steps keeps, as long as numbers last. -/
theorem Reaches.keeps (reaches : Reaches options state later) (kept : state.Kept)
    (within : later.launches.length ≤ UInt64.size) : later.Kept := by
  induction reaches with
  | refl => exact kept
  | tail _ step ih =>
    have before := Nat.le_trans step.length_le within
    exact step.kept before (ih before)

end Supervision

end SharedRecords.Manager
