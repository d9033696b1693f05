import SharedRecords.Proofs.Manager.Supervised

/-!
Every session is collected once. What holds of the list of sessions, as callers see it.
-/

namespace SharedRecords.Manager.Supervision

open Session (Tells)

variable {options : Session.Options} {state later : Supervision} {launch other : Launch} {monitor : Monitor}
  {resources : Session.Resources}

/-- Each session is collected once, by whoever is told how it has ended. -/
structure Collects (state : Supervision) : Prop where
  /-- Starts that have failed have used up a number each. -/
  numbers : (state.launches.map (·.id)).Nodup
  once : (state.handed.map (·.1)).Nodup
  own : ∀ entry ∈ state.handed, ∃ launch ∈ state.launches, launch.id = entry.1 ∧ launch.listing = .listed ∧
    launch.result? = some entry.2 ∧ Tells entry.1 entry.2
  unknown : ∀ id, id ∈ state.collected ∨ ¬ state.Enrolled id → state.join id = state.answer (.unknown id)
  taken : ∀ id ∈ state.sessionIds, id ∈ (state.join id).joining.map (·.id) ∧ id ∉ (state.join id).sessionIds
  ascending : SessionId.Ascending id state.sessionIds
  listed : ∀ id, id ∈ state.sessionIds ↔ state.Enrolled id ∧ id ∉ state.collected
  reaped : ∀ due results, .reaped due results ∈ state.answers →
    SessionId.Ascending (·.1) results ∧ ∀ id ∈ due, id ∈ results.map (·.1)
  /-- No reap takes a session that has not ended. -/
  unfinished : ∀ launch ∈ state.launches, launch.listing = .listed → launch.result? = none →
    launch.id ∈ state.sessionIds ∨ launch.id ∈ state.joining.map (·.id)

variable {id : SessionId}

theorem mem_sessionIds : id ∈ state.sessionIds ↔ id ∈ state.watched.map (·.id) :=
  (SessionId.arrange_perm _ _).mem_iff

namespace Kept

theorem numbers (kept : state.Kept) (within : state.launches.length ≤ UInt64.size) :
    (state.launches.map (·.id)).Nodup := by
  refine List.nodup_iff_pairwise_ne.mpr (List.pairwise_map.mpr (List.pairwise_iff_getElem.mpr ?_))
  intro one other below behind before same
  have threads := kept.thread_unique within (List.getElem?_eq_getElem below) (List.getElem?_eq_getElem behind) same
  omega

theorem result?_eq (kept : state.Kept) (within : state.launches.length ≤ UInt64.size) (minds : state.Knows monitor)
    (member : launch ∈ state.launches) (named : monitor.id = launch.id) :
    state.result? monitor.thread = launch.result? := by
  obtain ⟨other, runs, same⟩ := minds
  obtain rfl := kept.launch_unique within (List.mem_of_getElem? runs) member (same.trans named)
  unfold Supervision.result?
  rw [runs]
  rfl

theorem listed (kept : state.Kept) (id : SessionId) :
    id ∈ state.sessionIds ↔ state.Enrolled id ∧ id ∉ state.collected := by
  obtain ⟨_, _, apart⟩ := List.nodup_append.mp kept.once
  rw [mem_sessionIds, ← kept.enrolled id]
  unfold custody
  rw [List.mem_append]
  constructor
  · exact fun watched => ⟨.inl watched, fun collected => apart id watched id collected rfl⟩
  · exact fun ⟨either, kept⟩ => either.resolve_right kept

theorem own (kept : state.Kept) (within : state.launches.length ≤ UInt64.size)
    (entry : SessionId × Except Session.Error Session.Summary) (handed : entry ∈ state.handed) :
    ∃ launch ∈ state.launches, launch.id = entry.1 ∧ launch.listing = .listed ∧ launch.result? = some entry.2 ∧
      Tells entry.1 entry.2 := by
  obtain ⟨thread, launch, runs, named, ended⟩ := kept.told entry handed
  have member := List.mem_of_getElem? runs
  have tells := (kept.reliable launch member).tells ended
  rw [named] at tells
  refine ⟨launch, member, named, (kept.enrolled_iff within member).mp ?_, ended, tells⟩
  unfold custody collected
  simp only [List.mem_append, named]
  exact .inr (.inr (.inr (List.mem_map_of_mem handed)))

theorem join_unlisted (away : id ∉ state.sessionIds) : state.join id = state.answer (.unknown id) := by
  have none : state.watched.find? (·.id = id) = none := by
    rw [List.find?_eq_none]
    intro monitor member named
    exact away (mem_sessionIds.mpr (List.mem_map.mpr ⟨monitor, member, of_decide_eq_true named⟩))
  unfold Supervision.join
  rw [none]

theorem join_listed (listed : id ∈ state.sessionIds) :
    ∃ monitor, state.watched.find? (·.id = id) = some monitor ∧ monitor.id = id ∧ state.join id =
      { state with watched := state.watched.eraseP (·.id = id), joining := state.joining ++ [monitor] } := by
  obtain ⟨watcher, member, named⟩ := List.mem_map.mp (mem_sessionIds.mp listed)
  unfold Supervision.join
  cases found : state.watched.find? (·.id = id) with
  | none => exact absurd (decide_eq_true named) (List.find?_eq_none.mp found watcher member)
  | some monitor => exact ⟨monitor, rfl, Monitor.named_of_find? found, rfl⟩

theorem taken (kept : state.Kept) (listed : id ∈ state.sessionIds) :
    id ∈ (state.join id).joining.map (·.id) ∧ id ∉ (state.join id).sessionIds := by
  obtain ⟨monitor, found, named, joined⟩ := join_listed listed
  have all := (Monitor.perm_of_find? found).map (·.id)
  have once := all.nodup_iff.mpr (List.nodup_append.mp kept.once).1
  rw [joined]
  refine ⟨?_, fun still => ?_⟩
  · simp [named]
  · rw [List.map_cons, named] at once
    exact (List.nodup_cons.mp once).1 (mem_sessionIds.mp still)

theorem unfinished (kept : state.Kept) (within : state.launches.length ≤ UInt64.size) (member : launch ∈ state.launches)
    (listed : launch.listing = .listed) (running : launch.result? = none) :
    launch.id ∈ state.sessionIds ∨ launch.id ∈ state.joining.map (·.id) := by
  have custody := (kept.enrolled_iff within member).mpr listed
  unfold Supervision.custody collected at custody
  simp only [List.mem_append] at custody
  rcases custody with watched | joining | batches | handed
  · exact .inl (mem_sessionIds.mpr watched)
  · exact .inr joining
  · obtain ⟨batch, waits, taken⟩ := List.mem_flatMap.mp batches
    obtain ⟨monitor, reaped, named⟩ := List.mem_map.mp taken
    obtain ⟨ripe, minds⟩ := kept.batches batch waits
    have ended := ripe.ended monitor reaped
    unfold hasEnded at ended
    rw [kept.result?_eq within (minds monitor reaped) member named, running] at ended
    contradiction
  · obtain ⟨entry, told, named⟩ := List.mem_map.mp handed
    obtain ⟨other, there, same, _, ended, _⟩ := kept.own within entry told
    rw [kept.launch_unique within there member (same.trans named), running] at ended
    contradiction

theorem collects (kept : state.Kept) (within : state.launches.length ≤ UInt64.size) : state.Collects where
  numbers := kept.numbers within
  once := (List.nodup_append.mp (List.nodup_append.mp (List.nodup_append.mp kept.once).2.1).2.1).2.1
  own := kept.own within
  unknown id gone := by
    refine join_unlisted fun listed => ?_
    obtain ⟨enrolled, here⟩ := (kept.listed id).mp listed
    exact gone.elim here (absurd enrolled)
  taken _ listed := kept.taken listed
  ascending := by
    apply SessionId.arrange_ascending
    rw [List.map_id]
    exact (List.nodup_append.mp kept.once).1
  listed := kept.listed
  reaped _ _ told := kept.answers _ told
  unfinished _ member listed running := kept.unfinished within member listed running

end Kept

end SharedRecords.Manager.Supervision
