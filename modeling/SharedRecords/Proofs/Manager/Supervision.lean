import Mathlib.Data.List.Sort
import SharedRecords.Proofs.Manager.Reliable

/-!
The list of sessions as any number of threads share it. A session is put on the list once it has started,
whatever it has come to by then. Whoever joins it takes it off the list and waits for its end without the lock; a
reap looks at one session after another while the sessions go on, and takes those off that it has found ended.
-/

namespace SharedRecords

namespace SessionId

variable {α : Type} {key : α → SessionId} {items others : List α}

def Ascending (key : α → SessionId) (items : List α) : Prop :=
  items.Pairwise fun one other => (key one).number < (key other).number

def arrange (key : α → SessionId) (items : List α) : List α :=
  items.mergeSort fun one other => (key one).number ≤ (key other).number

theorem arrange_perm (key : α → SessionId) (items : List α) : (arrange key items).Perm items :=
  List.mergeSort_perm _ _

theorem arrange_ascending (once : (items.map key).Nodup) : Ascending key (arrange key items) := by
  have sorted : (arrange key items).Pairwise fun one other => decide ((key one).number ≤ (key other).number) := by
    apply List.pairwise_mergeSort
    · intro first second third early late
      simpa using UInt64.le_trans (of_decide_eq_true early) (of_decide_eq_true late)
    · intro one other
      simpa using UInt64.le_total (key one).number (key other).number
  have apart : (arrange key items).Pairwise fun one other => key one ≠ key other :=
    List.pairwise_map.mp (((arrange_perm key items).map key).nodup_iff.mpr once)
  refine (sorted.and apart).imp fun ⟨below, different⟩ => ?_
  exact UInt64.lt_of_le_of_ne (of_decide_eq_true below) fun same => different (congrArg mk same)

theorem Ascending.unique (one : Ascending key items) (other : Ascending key others)
    (same : ∀ item, item ∈ items ↔ item ∈ others) : items = others := by
  have apart {items : List α} (ascending : Ascending key items) : items.Nodup := by
    refine ascending.imp fun below same => ?_
    rw [same] at below
    exact UInt64.lt_irrefl _ below
  refine List.Perm.eq_of_pairwise (fun _ _ _ _ below above => ?_) one other
    ((List.perm_ext_iff_of_nodup (apart one) (apart other)).mpr same)
  exact absurd above (UInt64.lt_asymm below)

end SessionId

namespace Manager

def number (launched : Nat) : SessionId := ⟨UInt64.ofNat (launched + 1)⟩

theorem number_lt {one other : Nat} (before : one < other) (within : other + 1 < UInt64.size) :
    (number one).number < (number other).number :=
  (UInt64.ofNat_lt_iff_lt (by omega) within).mpr (by omega)

theorem number_ne {one other : Nat} (before : one < other) (within : other < UInt64.size) :
    number one ≠ number other := by
  intro same
  have numbers : (one + 1) % 2 ^ 64 = (other + 1) % 2 ^ 64 := by
    simpa [number] using congrArg (fun id : SessionId => id.number.toNat) same
  unfold UInt64.size at within
  omega

theorem number_recurs (launched : Nat) : number (launched + UInt64.size) = number launched := by
  have same : UInt64.ofNat (launched + UInt64.size + 1) = UInt64.ofNat (launched + 1) := by
    rw [UInt64.ofNat_eq_iff_mod_eq_toNat, UInt64.toNat_ofNat', Nat.add_right_comm, UInt64.size, Nat.add_mod_right]
  exact congrArg SessionId.mk same

/-- A session whose regions are there when it gets its number. -/
def Launch.launched (id : SessionId) (holding : Session.Holding) : Launch :=
  ⟨id, holding.owned, .equipped holding, .unlisted, holding.owns, []⟩

/-- What the manager keeps of a session on its list: the thread that runs it. -/
structure Monitor where
  id : SessionId
  thread : Nat

namespace Monitor

/-- Takes sessions off a list, one after another. Those that are not there are passed over. -/
def withdraw : List SessionId → List Monitor → List Monitor × List Monitor
  | [], watched => ([], watched)
  | id :: rest, watched =>
    match watched.find? (·.id = id) with
    | none => withdraw rest watched
    | some monitor =>
      let (taken, left) := withdraw rest (watched.eraseP (·.id = id))
      (monitor :: taken, left)

variable {watched : List Monitor} {monitor : Monitor} {id : SessionId} {ids : List SessionId}

theorem named_of_find? (found : watched.find? (·.id = id) = some monitor) : monitor.id = id := by
  simpa using List.find?_some found

theorem perm_of_find? (found : watched.find? (·.id = id) = some monitor) :
    (monitor :: watched.eraseP (·.id = id)).Perm watched := by
  obtain ⟨named, before, rest, rfl, others⟩ := List.find?_eq_some_iff_append.mp found
  have erased : (monitor :: rest).eraseP (·.id = id) = rest := List.eraseP_cons_of_pos named
  rw [List.eraseP_append_right _ (by simpa using others), erased]
  exact List.perm_middle.symm

theorem withdraw_perm (ids : List SessionId) (watched : List Monitor) :
    ((withdraw ids watched).1 ++ (withdraw ids watched).2).Perm watched := by
  induction ids generalizing watched with
  | nil => exact .refl _
  | cons id rest ih =>
    unfold withdraw
    split
    next => exact ih watched
    next monitor found => exact ((ih _).cons monitor).trans (perm_of_find? found)

theorem withdraw_named (taken : monitor ∈ (withdraw ids watched).1) : monitor.id ∈ ids := by
  induction ids generalizing watched with
  | nil => exact absurd taken List.not_mem_nil
  | cons id rest ih =>
    unfold withdraw at taken
    split at taken
    next => exact List.mem_cons_of_mem _ (ih taken)
    next found =>
      rcases List.mem_cons.mp taken with rfl | later
      · exact List.mem_cons.mpr (.inl (named_of_find? found))
      · exact List.mem_cons_of_mem _ (ih later)

theorem withdraw_all (wanted : id ∈ ids) (listed : id ∈ watched.map (·.id)) :
    id ∈ (withdraw ids watched).1.map (·.id) := by
  induction ids generalizing watched with
  | nil => exact absurd wanted List.not_mem_nil
  | cons first rest ih =>
    unfold withdraw
    split
    next none =>
      refine ih ((List.mem_cons.mp wanted).resolve_left ?_) listed
      rintro rfl
      obtain ⟨monitor, member, rfl⟩ := List.mem_map.mp listed
      simpa using List.find?_eq_none.mp none monitor member
    next monitor found =>
      have named := named_of_find? found
      by_cases same : id = first
      · exact List.mem_cons.mpr (.inl (same.trans named.symm))
      · have left : id ∈ (watched.eraseP (·.id = first)).map (·.id) := by
          have either := ((perm_of_find? found).map (·.id)).mem_iff.mpr listed
          exact (List.mem_cons.mp either).resolve_left fun this => same (this.trans named)
        exact List.mem_cons_of_mem _ (ih ((List.mem_cons.mp wanted).resolve_left same) left)

end Monitor

structure Sweep where
  /-- The sessions it has not looked at, in the order in which it comes to them. -/
  pending : List Monitor
  found : List SessionId
  /-- The sessions on the list that had ended when it took the lock. -/
  due : List SessionId

/-- What a reap has taken off the list and not handed out yet. -/
structure Batch where
  monitors : List Monitor
  due : List SessionId

inductive Answer where
  | unknown (id : SessionId)
  | joined (id : SessionId) (result : Except Session.Error Session.Summary)
  | reaped (due : List SessionId) (results : List (SessionId × Except Session.Error Session.Summary))
  | listed (ids : List SessionId)

def Answer.handed : Answer → List (SessionId × Except Session.Error Session.Summary)
  | joined id result => [(id, result)]
  | reaped _ results => results
  | unknown _ | listed _ => []

/-- The sessions there have been, and how the manager keeps track of them. -/
structure Supervision where
  resources : Session.Resources
  /-- All that were given a number, in the order of their numbers; each is run by the thread of its place. -/
  launches : List Launch
  watched : List Monitor
  /-- The lock, while a reap holds it. -/
  sweep : Option Sweep
  /-- The sessions that are waited for. -/
  joining : List Monitor
  batches : List Batch
  /-- All that was told to callers, the latest last. -/
  answers : List Answer

namespace Supervision

def opened (resources : Session.Resources) : Supervision := ⟨resources, [], [], none, [], [], []⟩

def result? (state : Supervision) (thread : Nat) : Option (Except Session.Error Session.Summary) :=
  state.launches[thread]?.bind Launch.result?

def hasEnded (state : Supervision) (monitor : Monitor) : Bool := (state.result? monitor.thread).isSome

def due (state : Supervision) : List SessionId := (state.watched.filter state.hasEnded).map (·.id)

/-- How sessions have ended, by their numbers. -/
def outcomes (state : Supervision) (monitors : List Monitor) :
    List (SessionId × Except Session.Error Session.Summary) :=
  SessionId.arrange (·.1) (monitors.filterMap fun monitor => (state.result? monitor.thread).map (monitor.id, ·))

def sessionIds (state : Supervision) : List SessionId := SessionId.arrange id (state.watched.map (·.id))

def answer (state : Supervision) (answer : Answer) : Supervision := { state with answers := state.answers ++ [answer] }

def join (state : Supervision) (id : SessionId) : Supervision :=
  match state.watched.find? (·.id = id) with
  | none => state.answer (.unknown id)
  | some monitor =>
    { state with watched := state.watched.eraseP (·.id = id), joining := state.joining ++ [monitor] }

/-- The next thing that happens. Whoever needs the lock waits until no reap holds it. -/
inductive Step (options : Session.Options) : Supervision → Supervision → Prop where
  /-- The next number is given to a session. -/
  | launch (state : Supervision) (holding : Session.Holding) :
      Step options state
        { state with launches := state.launches ++ [.launched (number state.launches.length) holding] }
  | act {state : Supervision} {thread : Nat} {launch later : Launch} {services : List Session.Service}
      {after : Session.Resources} (runs : state.launches[thread]? = some launch)
      (act : Launch.Act options (launch, state.resources) services (later, after))
      (listing : later.listing = launch.listing) :
      Step options state { state with resources := after, launches := state.launches.set thread later }
  /-- A session that has started is put on the list. -/
  | enroll {state : Supervision} {thread : Nat} {launch : Launch} (free : state.sweep = none)
      (runs : state.launches[thread]? = some launch) (started : launch.progress.HasStarted)
      (unlisted : launch.listing = .unlisted) :
      Step options state
        { state with
          launches := state.launches.set thread { launch with listing := .listed }
          watched := ⟨launch.id, thread⟩ :: state.watched.eraseP (·.id = launch.id) }
  | join {state : Supervision} (free : state.sweep = none) (id : SessionId) : Step options state (state.join id)
  /-- A session that was waited for has ended. -/
  | finish {state : Supervision} {early late : List Monitor} {monitor : Monitor}
      {result : Except Session.Error Session.Summary} (waits : state.joining = early ++ monitor :: late)
      (ended : state.result? monitor.thread = some result) :
      Step options state ({ state with joining := early ++ late }.answer (.joined monitor.id result))
  | list {state : Supervision} (free : state.sweep = none) :
      Step options state (state.answer (.listed state.sessionIds))
  /-- A reap takes the lock, to come to the sessions on the list in any order. -/
  | lock {state : Supervision} {pending : List Monitor} (free : state.sweep = none)
      (all : pending.Perm state.watched) :
      Step options state { state with sweep := some ⟨pending, [], state.due⟩ }
  /-- It looks whether the next one has ended. -/
  | examine {state : Supervision} {monitor : Monitor} {rest : List Monitor} {found due : List SessionId}
      (sweeps : state.sweep = some ⟨monitor :: rest, found, due⟩) :
      Step options state
        { state with
          sweep := some ⟨rest, if state.hasEnded monitor then found ++ [monitor.id] else found, due⟩ }
  /-- It takes those that it has found ended off the list, and gives up the lock. -/
  | unlock {state : Supervision} {found due : List SessionId} (sweeps : state.sweep = some ⟨[], found, due⟩) :
      Step options state
        { state with
          watched := (Monitor.withdraw found state.watched).2
          sweep := none
          batches := state.batches ++ [⟨(Monitor.withdraw found state.watched).1, due⟩] }
  /-- All that it has taken off the list have ended, and it hands out how. -/
  | deliver {state : Supervision} {early late : List Batch} {batch : Batch}
      (waits : state.batches = early ++ batch :: late) (ended : ∀ monitor ∈ batch.monitors, state.hasEnded monitor) :
      Step options state
        ({ state with batches := early ++ late }.answer (.reaped batch.due (state.outcomes batch.monitors)))
  /-- Clients, other sessions of the store and the platform do as they like. -/
  | meanwhile (state : Supervision) (resources : Session.Resources) : Step options state { state with resources }

def Reaches (options : Session.Options) : Supervision → Supervision → Prop := Relation.ReflTransGen (Step options)

def Enrolled (state : Supervision) (id : SessionId) : Prop :=
  ∃ (thread : Nat) (launch : Launch), state.launches[thread]? = some launch ∧ launch.id = id ∧ launch.listing = .listed

def handed (state : Supervision) : List (SessionId × Except Session.Error Session.Summary) :=
  state.answers.flatMap Answer.handed

def collected (state : Supervision) : List SessionId :=
  state.joining.map (·.id) ++ (state.batches.flatMap (·.monitors.map (·.id)) ++ state.handed.map (·.1))

def custody (state : Supervision) : List SessionId := state.watched.map (·.id) ++ state.collected

def Knows (state : Supervision) (monitor : Monitor) : Prop :=
  ∃ launch, state.launches[monitor.thread]? = some launch ∧ launch.id = monitor.id

def Told (state : Supervision) (entry : SessionId × Except Session.Error Session.Summary) : Prop :=
  ∃ (thread : Nat) (launch : Launch), state.launches[thread]? = some launch ∧ launch.id = entry.1 ∧
    launch.result? = some entry.2

end Supervision

/-- A reap under the lock has found only sessions that have ended, and loses none that had ended before. -/
structure Sweep.Fair (sweep : Sweep) (state : Supervision) : Prop where
  pending : ∀ monitor ∈ sweep.pending, monitor ∈ state.watched
  found : ∀ monitor ∈ state.watched, monitor.id ∈ sweep.found → state.hasEnded monitor = true
  listed : ∀ id ∈ sweep.due, id ∈ state.watched.map (·.id)
  due : ∀ id ∈ sweep.due, id ∈ sweep.found ∨
    ∃ monitor ∈ sweep.pending, monitor.id = id ∧ state.hasEnded monitor = true

/-- A reap has taken off the list what it had to, and nothing that has not ended. -/
structure Batch.Ripe (batch : Batch) (state : Supervision) : Prop where
  ended : ∀ monitor ∈ batch.monitors, state.hasEnded monitor = true
  due : ∀ id ∈ batch.due, id ∈ batch.monitors.map (·.id)

def Answer.Complete : Answer → Prop
  | reaped due results => SessionId.Ascending (·.1) results ∧ ∀ id ∈ due, id ∈ results.map (·.1)
  | unknown _ | joined .. | listed _ => True

namespace Supervision

/-- Every session that was put on the list is there or in one other place, and its end is told as it was. -/
structure Kept (state : Supervision) : Prop where
  reliable : ∀ launch ∈ state.launches, launch.Reliable
  numbered : ∀ (thread : Nat) (launch : Launch), state.launches[thread]? = some launch → launch.id = number thread
  once : state.custody.Nodup
  enrolled : ∀ id, id ∈ state.custody ↔ state.Enrolled id
  watched : ∀ monitor ∈ state.watched, state.Knows monitor
  joining : ∀ monitor ∈ state.joining, state.Knows monitor
  batches : ∀ batch ∈ state.batches, batch.Ripe state ∧ ∀ monitor ∈ batch.monitors, state.Knows monitor
  sweep : ∀ sweep, state.sweep = some sweep → sweep.Fair state
  told : ∀ entry ∈ state.handed, state.Told entry
  answers : ∀ answer ∈ state.answers, answer.Complete

end Supervision

end Manager

end SharedRecords
