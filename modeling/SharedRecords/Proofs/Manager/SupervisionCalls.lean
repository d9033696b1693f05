import SharedRecords.Proofs.Manager.Collected

/-!
The calls of a manager among those of all threads. A call that nobody else comes between is one of the many ways in
which sessions are started, listed and collected, and is answered as it is there.
-/

namespace SharedRecords.Manager

open Region (Handle)

namespace Launch

variable {options : Session.Options} {launch : Launch} {session : Session} {first last : Launch × Session.Resources}
  {services : List Session.Service}

def present? (collected : List SessionId) (launch : Launch) : Option Session :=
  if launch.id ∈ collected then none else launch.listed?

theorem Act.listing (act : Act options first services last) :
    last.1.listing = first.1.listing ∨ last.1.listing = .collected ∨
      first.1.progress.HasStarted ∧ first.1.listing = .unlisted ∧
        last = ({ first.1 with listing := .listed }, first.2) := by
  cases act with
  | advance launch resources => exact .inl (advance_keeps options launch resources).2
  | threadless | turn | part => exact .inl rfl
  | enroll launch started unlisted => exact .inr (.inr ⟨started, unlisted, rfl⟩)
  | collect => exact .inr (.inl rfl)

theorem Act.stays_off (act : Act options first services last) (off : first.1.listing = .collected) :
    last.1.listing = .collected := by
  rcases act.listing with same | collected | ⟨_, unlisted, _⟩
  · exact same.trans off
  · exact collected
  · cases unlisted.symm.trans off

theorem Runs.id_eq (runs : Runs options first last) : last.1.id = first.1.id := by
  obtain ⟨record, run⟩ := runs
  induction run with
  | refl => rfl
  | tail _ act ih => exact act.id_eq.trans ih

theorem Reliable.served (reliable : launch.Reliable) : launch.Served := by
  obtain ⟨orderly, known, started⟩ := reliable
  unfold Orderly at orderly
  unfold Served
  cases come : launch.progress with
  | asking | halfway | equipped | watching | leaving => trivial
  | attached =>
    rw [come] at started
    by_contra listed
    exact started listed
  | started =>
    rw [come] at orderly
    exact orderly.2.1
  | closing | ended =>
    rw [come] at known
    exact known.2.1

theorem Reliable.listed (reliable : launch.Reliable) (listed : launch.listing = .listed) :
    ∃ session, launch.listed? = some session ∧ session.id = launch.id ∧ launch.result? = session.result? := by
  obtain ⟨_, known, started⟩ := reliable
  have begun := started (by rw [listed]; exact nofun)
  rw [listed?_of_listed listed]
  unfold result?
  cases come : launch.progress with
  | asking | halfway | equipped | watching | attached | leaving =>
    rw [come] at begun
    exact begun.elim
  | started session =>
    rw [come] at known
    exact ⟨session, rfl, known, rfl⟩
  | closing session | ended session =>
    rw [come] at known
    exact ⟨session, rfl, known.1, rfl⟩

end Launch

def Answer.joined? : Answer → Option (Except Session.Error Session.Summary)
  | unknown id => some (.error (.unknownSession id))
  | joined _ result => some result
  | reaped .. | listed _ => none

namespace Supervision

variable {options : Session.Options} {state later : Supervision} {thread : Nat} {launch moved : Launch}
  {manager after : Manager} {resources : Session.Resources} {id : SessionId}

def having (state : Supervision) (thread : Nat) (last : Launch × Session.Resources) (watched : List Monitor) :
    Supervision :=
  { state with resources := last.2, launches := state.launches.set thread last.1, watched }

theorem having_self (there : state.launches[thread]? = some launch) :
    state.having thread (launch, state.resources) state.watched = state := by
  obtain ⟨within, rfl⟩ := List.getElem?_eq_some_iff.mp there
  unfold having
  rw [List.set_getElem_self]

theorem having_having (first last : Launch × Session.Resources) (early late : List Monitor) :
    (state.having thread first early).having thread last late = state.having thread last late := by
  unfold having
  rw [List.set_set]

theorem act_reaches {first last : Launch × Session.Resources} {services : List Session.Service}
    (act : Launch.Act options first services last) (resources : state.resources = first.2)
    (there : state.launches[thread]? = some first.1) (free : state.sweep = none)
    (kept : last.1.listing ≠ .collected) :
    ∃ watched, Reaches options state (state.having thread last watched) := by
  rcases act.listing with same | collected | ⟨started, unlisted, rfl⟩
  · have act : Launch.Act options (first.1, state.resources) services (last.1, last.2) := by
      rw [resources]
      exact act
    exact ⟨state.watched, .single (.act there act same)⟩
  · exact absurd collected kept
  · refine ⟨⟨first.1.id, thread⟩ :: state.watched.eraseP (·.id = first.1.id), .single ?_⟩
    unfold having
    rw [← resources]
    exact .enroll free there started unlisted

theorem runs_reaches {last : Launch × Session.Resources} (runs : Launch.Runs options (launch, state.resources) last)
    (there : state.launches[thread]? = some launch) (free : state.sweep = none) (kept : last.1.listing ≠ .collected) :
    ∃ watched, Reaches options state (state.having thread last watched) := by
  obtain ⟨record, run⟩ := runs
  induction run with
  | refl =>
    refine ⟨state.watched, ?_⟩
    rw [having_self there]
    exact .refl
  | @tail between last _ _ _ act ih =>
    obtain ⟨early, reaches⟩ := ih fun off => kept (act.stays_off off)
    have here : (state.having thread between early).launches[thread]? = some between.1 :=
      List.getElem?_set_self (List.getElem?_eq_some_iff.mp there).1
    obtain ⟨late, further⟩ := act_reaches act rfl here free kept
    rw [having_having] at further
    exact ⟨late, reaches.trans further⟩

/-! ## Managers -/

def present (state : Supervision) : List Session := state.launches.filterMap (Launch.present? state.collected)

/-- The manager has what is here, and lists the sessions that are listed here. -/
structure Represents (options : Session.Options) (state : Supervision) (manager : Manager) : Prop where
  resources : state.resources = manager.resources
  options : manager.options = options
  launched : manager.launched = state.launches.length
  sessions : manager.sessions = state.present
  free : state.sweep = none
  joining : state.joining = []
  batches : state.batches = []

def Continues (options : Session.Options) (state : Supervision) (told : List Answer) (manager : Manager) : Prop :=
  ∃ later, Reaches options state later ∧ later.Represents options manager ∧ later.answers = state.answers ++ told

theorem Represents.stays (represents : state.Represents options manager) : state.Continues options [] manager :=
  ⟨state, .refl, represents, (List.append_nil _).symm⟩

theorem mem_present {session : Session} : session ∈ state.present ↔
    ∃ launch ∈ state.launches, launch.id ∉ state.collected ∧ launch.listed? = some session := by
  unfold present Launch.present?
  simp [List.mem_filterMap]

theorem present_append (state : Supervision) (launch : Launch) (resources : Session.Resources) (watched : List Monitor)
    (fresh : launch.id ∉ state.collected) :
    present { state with resources, launches := state.launches ++ [launch], watched } =
      state.present ++ launch.listed?.toList := by
  have same : collected { state with resources, launches := state.launches ++ [launch], watched } =
      state.collected := rfl
  unfold present
  rw [same, List.filterMap_append]
  congr 1
  unfold Launch.present?
  cases held : launch.listed? <;> simp [fresh, held]

theorem launch_launched (manager : Manager) (holding : Session.Holding) :
    (manager.launch holding).2.launched = manager.launched + 1 := by
  unfold launch discard
  dsimp only
  split
  · split <;> rfl
  · rfl

theorem launch_continues (represents : state.Represents options manager) (kept : state.Kept)
    (within : state.launches.length < UInt64.size) (holding : Session.Holding) :
    state.Continues options [] (manager.launch holding).2 := by
  obtain ⟨shared, rfl, launched, sessions, free, joining, batches⟩ := represents
  let launch := Launch.launched (number state.launches.length) holding
  have named : launch.id = manager.nextId := by
    unfold nextId
    rw [launched]
    rfl
  obtain ⟨moved, starts⟩ := launch_starts manager launch rfl rfl named
  have runs := starts.runs
  rw [← shared] at runs
  have arrives : Step manager.options state { state with launches := state.launches ++ [launch] } :=
    .launch state holding
  have there : (state.launches ++ [launch])[state.launches.length]? = some launch := List.getElem?_concat_length
  obtain ⟨watched, reaches⟩ :=
    @runs_reaches _ { state with launches := state.launches ++ [launch] } _ _ _ runs there free starts.kept
  have place : (state.launches ++ [launch]).set state.launches.length moved = state.launches ++ [moved] := by simp
  have fresh : moved.id ∉ state.collected := by
    rw [starts.runs.id_eq]
    intro collected
    obtain ⟨other, found, old, same, _⟩ := (kept.enrolled _).mp (List.mem_append_right _ collected)
    have before := (List.getElem?_eq_some_iff.mp old).1
    exact number_ne before within ((kept.numbered other found old).symm.trans same)
  unfold having at reaches
  dsimp only at reaches
  rw [place] at reaches
  refine ⟨_, .head arrives reaches, ⟨rfl, starts.options, ?_, ?_, free, joining, batches⟩, (List.append_nil _).symm⟩
  · rw [launch_launched, launched]
    simp
  · rw [starts.sessions, sessions, present_append _ _ _ _ fresh]

theorem Continues.behind {between : Supervision} {told : List Answer} (step : Step options state between)
    (same : between.answers = state.answers) (continues : between.Continues options told manager) :
    state.Continues options told manager := by
  obtain ⟨later, reaches, represents, answers⟩ := continues
  exact ⟨later, .head step reaches, represents, by rw [answers, same]⟩

theorem Represents.meanwhile (represents : state.Represents options manager) (resources : Session.Resources) :
    Represents options { state with resources } { manager with resources } :=
  ⟨rfl, represents.options, represents.launched, represents.sessions, represents.free, represents.joining,
    represents.batches⟩

theorem Kept.meanwhile (kept : state.Kept) (resources : Session.Resources) : Kept { state with resources } :=
  kept.moves (.of_same rfl) kept.reliable kept.numbered fun _ enrolled => enrolled

theorem spawn_continues (represents : state.Represents options manager) (kept : state.Kept)
    (within : state.launches.length < UInt64.size) : state.Continues options [] manager.spawn.2 := by
  have allocated := represents.meanwhile manager.allocatePair.2.resources
  rw [← allocatePair_eq] at allocated
  unfold spawn
  split
  next => exact represents.stays
  next =>
    refine .behind (.meanwhile state manager.allocatePair.2.resources) rfl ?_
    rcases given : manager.allocatePair with ⟨error | holding, between⟩
    · rw [given] at allocated
      exact allocated.stays
    · rw [given] at allocated
      exact launch_continues allocated (kept.meanwhile _) within holding

theorem spawnWith_continues (represents : state.Represents options manager) (kept : state.Kept)
    (within : state.launches.length < UInt64.size) (request response : Handle) :
    state.Continues options [] (manager.spawnWith request response).2 := by
  unfold spawnWith
  split
  next => exact represents.stays
  next => exact launch_continues represents kept within ⟨request, response, false⟩

/-! ## Serving -/

theorem present?_iff {collected : List SessionId} {session : Session} :
    launch.present? collected = some session ↔ launch.id ∉ collected ∧ launch.listed? = some session := by
  unfold Launch.present?
  split <;> simp [*]

theorem turn_reaches (options : Session.Options) {before rest : List Launch} {session : Session}
    (place : state.launches = before ++ launch :: rest) (reliable : launch.Reliable) (free : state.sweep = none)
    (held : launch.present? state.collected = some session) :
    ∃ turned watched,
      Reaches options state
        { state with
          resources := (session.serve .zero state.resources).2
          launches := before ++ turned :: rest, watched } ∧
      turned.present? state.collected = some (session.serve .zero state.resources).1 := by
  obtain ⟨fresh, listed⟩ := present?_iff.mp held
  obtain ⟨turned, runs, served, _⟩ := Launch.turn_runs options reliable.served listed .zero state.resources
  have there : state.launches[before.length]? = some launch := by simp [place]
  have kept : turned.listing ≠ .collected := by
    rw [Launch.listing_of_listed? served]
    exact nofun
  obtain ⟨watched, reaches⟩ := runs_reaches runs there free kept
  have moved : state.launches.set before.length turned = before ++ turned :: rest := by simp [place]
  unfold having at reaches
  dsimp only at reaches
  rw [moved] at reaches
  refine ⟨turned, watched, reaches, ?_⟩
  rw [present?_iff, runs.id_eq]
  exact ⟨fresh, served⟩

theorem serveEach_reaches (options : Session.Options) (before rest : List Launch) (state : Supervision)
    (place : state.launches = before ++ rest) (reliable : ∀ launch ∈ rest, launch.Reliable)
    (free : state.sweep = none) :
    ∃ moved watched,
      Reaches options state
        { state with
          resources := (serveEach state.resources (rest.filterMap (Launch.present? state.collected))).2
          launches := before ++ moved, watched } ∧
      moved.filterMap (Launch.present? state.collected) =
        (serveEach state.resources (rest.filterMap (Launch.present? state.collected))).1 ∧
      moved.length = rest.length := by
  induction rest generalizing before state with
  | nil =>
    refine ⟨[], state.watched, ?_, rfl, rfl⟩
    rw [← place]
    exact .refl
  | cons launch rest ih =>
    obtain ⟨first, others⟩ := List.forall_mem_cons.mp reliable
    cases held : launch.present? state.collected with
    | none =>
      obtain ⟨moved, watched, reaches, served, length⟩ := ih (before ++ [launch]) state (by simp [place]) others free
      have behind : (before ++ [launch]) ++ moved = before ++ launch :: moved := by simp
      rw [behind] at reaches
      rw [List.filterMap_cons_none held]
      refine ⟨launch :: moved, watched, reaches, ?_, congrArg Nat.succ length⟩
      rw [List.filterMap_cons_none held]
      exact served
    | some session =>
      obtain ⟨turned, early, reached, turn⟩ := turn_reaches options place first free held
      have split : before ++ turned :: rest = (before ++ [turned]) ++ rest := by simp
      rw [split] at reached
      obtain ⟨moved, watched, reaches, served, length⟩ := ih (before ++ [turned])
        { state with
          resources := (session.serve .zero state.resources).2
          launches := (before ++ [turned]) ++ rest, watched := early } rfl others free
      have behind : (before ++ [turned]) ++ moved = before ++ turned :: moved := by simp
      rw [behind] at reaches
      rw [List.filterMap_cons_some held]
      refine ⟨turned :: moved, watched, reached.trans reaches, ?_, congrArg Nat.succ length⟩
      rw [List.filterMap_cons_some turn]
      exact congrArg (List.cons _) served

theorem serveRound_continues (represents : state.Represents options manager) (kept : state.Kept) :
    state.Continues options [] manager.serveRound := by
  obtain ⟨shared, same, launched, sessions, free, joining, batches⟩ := represents
  obtain ⟨moved, watched, reaches, served, length⟩ := serveEach_reaches options [] state.launches state rfl
    kept.reliable free
  have listed : state.launches.filterMap (Launch.present? state.collected) = manager.sessions := sessions.symm
  rw [listed, shared] at reaches served
  refine ⟨_, reaches, ⟨rfl, same, ?_, served.symm, free, joining, batches⟩, (List.append_nil _).symm⟩
  exact launched.trans length.symm

/-! ## Listing, joining and reaping -/

theorem Kept.mem_present_of (kept : state.Kept) (member : launch ∈ state.launches) (listed : launch.listing = .listed)
    (here : launch.id ∉ state.collected) :
    ∃ session ∈ state.present, session.id = launch.id ∧ launch.result? = session.result? := by
  obtain ⟨session, held, named, result⟩ := (kept.reliable launch member).listed listed
  exact ⟨session, mem_present.mpr ⟨launch, member, here, held⟩, named, result⟩

theorem Kept.launch_of_present {session : Session} (kept : state.Kept) (present : session ∈ state.present) :
    ∃ launch ∈ state.launches, launch.id ∈ state.sessionIds ∧ session.id = launch.id ∧
      launch.result? = session.result? := by
  obtain ⟨launch, member, here, held⟩ := mem_present.mp present
  obtain ⟨thread, runs⟩ := List.mem_iff_getElem?.mp member
  have listed := Launch.listing_of_listed? held
  obtain ⟨same, there, named, result⟩ := (kept.reliable launch member).listed listed
  obtain rfl := Option.some.inj (held.symm.trans there)
  exact ⟨launch, member, (kept.listed _).mpr ⟨⟨thread, launch, runs, rfl, listed⟩, here⟩, named, result⟩

theorem Kept.present_named {session : Session} (kept : state.Kept) (member : launch ∈ state.launches)
    (held : launch.present? state.collected = some session) : session.id = launch.id := by
  obtain ⟨_, listed⟩ := present?_iff.mp held
  obtain ⟨same, there, named, _⟩ := (kept.reliable launch member).listed (Launch.listing_of_listed? listed)
  obtain rfl := Option.some.inj (listed.symm.trans there)
  exact named

theorem Kept.present_ascending (kept : state.Kept) (within : state.launches.length < UInt64.size) :
    SessionId.Ascending (·.id) state.present := by
  have launches : SessionId.Ascending (·.id) state.launches := by
    refine List.pairwise_iff_getElem.mpr fun one other below behind before => ?_
    dsimp only
    rw [kept.numbered one _ (List.getElem?_eq_getElem below), kept.numbered other _ (List.getElem?_eq_getElem behind)]
    exact number_lt before (by omega)
  refine List.pairwise_filterMap.mpr (launches.imp_of_mem fun first second below session held other also => ?_)
  dsimp only
  rw [kept.present_named first held, kept.present_named second also]
  exact below

theorem Kept.sessionIds_eq (kept : state.Kept) (within : state.launches.length < UInt64.size) :
    state.sessionIds = state.present.map (·.id) := by
  have collects := kept.collects (Nat.le_of_lt within)
  apply SessionId.Ascending.unique collects.ascending
  · exact List.pairwise_map.mpr (kept.present_ascending within)
  · intro id
    rw [List.mem_map]
    constructor
    · intro listed
      obtain ⟨⟨thread, launch, runs, rfl, enrolled⟩, here⟩ := (kept.listed id).mp listed
      obtain ⟨session, present, named, _⟩ := kept.mem_present_of (List.mem_of_getElem? runs) enrolled here
      exact ⟨session, present, named⟩
    · rintro ⟨session, present, rfl⟩
      obtain ⟨launch, _, listed, named, _⟩ := kept.launch_of_present present
      exact named ▸ listed

theorem Kept.present_without (kept : state.Kept) (same : later.launches = state.launches) (keep : Session → Bool)
    (gone : ∀ session ∈ state.present, session.id ∈ later.collected ↔ keep session = false)
    (still : ∀ id ∈ state.collected, id ∈ later.collected) : later.present = state.present.filter keep := by
  unfold present
  rw [List.filter_filterMap, same]
  apply List.filterMap_congr
  intro launch member
  cases held : launch.present? state.collected with
  | none =>
    cases held' : launch.present? later.collected with
    | none => rfl
    | some session =>
      obtain ⟨here, listed⟩ := present?_iff.mp held'
      have present : launch.present? state.collected = some session :=
        present?_iff.mpr ⟨fun collected => here (still _ collected), listed⟩
      cases held.symm.trans present
  | some session =>
    obtain ⟨here, listed⟩ := present?_iff.mp held
    have away := gone session (mem_present.mpr ⟨launch, member, here, listed⟩)
    rw [kept.present_named member held] at away
    unfold Launch.present?
    rw [Option.filter_some, listed]
    cases held : keep session with
    | false => simp [away.mpr held]
    | true => simp [away, held]

theorem Represents.told {answer : Answer} {watched : List Monitor} (represents : state.Represents options manager)
    (kept : state.Kept) (keep : Session → Bool)
    (reaches : Reaches options state ({ state with watched }.answer answer))
    (gone : ∀ session ∈ state.present, session.id ∈ answer.handed.map (·.1) ↔ keep session = false) :
    state.Continues options [answer] { manager with sessions := manager.sessions.filter keep } := by
  obtain ⟨resources, same, launched, sessions, free, joining, batches⟩ := represents
  have collected : ({ state with watched }.answer answer).collected =
      state.collected ++ answer.handed.map (·.1) := by
    unfold collected
    rw [handed_answer]
    simp [Supervision.answer, handed]
  have left : ({ state with watched }.answer answer).present = state.present.filter keep := by
    apply kept.present_without
    · rfl
    · intro session present
      obtain ⟨_, _, listed, named, _⟩ := kept.launch_of_present present
      rw [collected, List.mem_append, ← gone session present, named]
      exact or_iff_right ((kept.listed _).mp listed).2
    · intro id old
      rw [collected]
      exact List.mem_append_left _ old
  refine ⟨_, reaches, ⟨resources, same, launched, ?_, free, joining, batches⟩, rfl⟩
  rw [left, ← sessions]

theorem Represents.says {answer : Answer} (represents : state.Represents options manager) (kept : state.Kept)
    (step : Step options state (state.answer answer)) (silent : answer.handed = []) :
    state.Continues options [answer] manager := by
  have all : manager.sessions.filter (fun _ => true) = manager.sessions := by simp
  have continues := represents.told kept (fun _ => true) (.single step) (by simp [silent])
  rw [all] at continues
  exact continues

theorem sessionIds_continues (represents : state.Represents options manager) (kept : state.Kept)
    (within : state.launches.length < UInt64.size) : state.Continues options [.listed manager.sessionIds] manager := by
  have same : state.sessionIds = manager.sessionIds := by
    rw [kept.sessionIds_eq within, Manager.sessionIds, represents.sessions]
  rw [← same]
  exact represents.says kept (.list represents.free) rfl

theorem join_reaches {result : Except Session.Error Session.Summary} (kept : state.Kept)
    (within : state.launches.length ≤ UInt64.size) (free : state.sweep = none) (joining : state.joining = [])
    (listed : launch.id ∈ state.sessionIds) (member : launch ∈ state.launches) (told : launch.result? = some result) :
    ∃ watched, Reaches options state ({ state with watched }.answer (.joined launch.id result)) := by
  obtain ⟨monitor, found, named, joined⟩ := Kept.join_listed listed
  have minds := kept.watched monitor (List.mem_of_find?_eq_some found)
  have ended : state.result? monitor.thread = some result := (kept.result?_eq within minds member named).trans told
  have asked : Step options state (state.join launch.id) := .join free _
  rw [joined, joining] at asked
  have answered : Step options
      { state with watched := state.watched.eraseP (·.id = launch.id), joining := [] ++ [monitor] } _ :=
    .finish rfl ended
  have rest : { state with watched := state.watched.eraseP (·.id = launch.id), joining := [] } =
      { state with watched := state.watched.eraseP (·.id = launch.id) } := by rw [← joining]
  refine ⟨state.watched.eraseP (·.id = launch.id), .head asked (.single ?_)⟩
  rw [← rest, ← named]
  rw [← named] at answered
  exact answered

theorem join_continues {result : Except Session.Error Session.Summary} (represents : state.Represents options manager)
    (kept : state.Kept) (within : state.launches.length ≤ UInt64.size)
    (joined : manager.join id = some (result, after)) :
    ∃ answer : Answer, answer.joined? = some result ∧ state.Continues options [answer] after := by
  unfold Manager.join at joined
  split at joined
  next none =>
    obtain ⟨rfl, rfl⟩ := Prod.mk.inj (Option.some.inj joined)
    have away : id ∉ state.sessionIds := by
      intro listed
      obtain ⟨⟨_, launch, runs, named, listed⟩, here⟩ := (kept.listed id).mp listed
      obtain ⟨session, present, same, _⟩ := kept.mem_present_of (List.mem_of_getElem? runs) listed (named ▸ here)
      rw [← represents.sessions] at present
      exact List.find?_eq_none.mp none session present (decide_eq_true (same.trans named))
    have step : Step options state (state.join id) := .join represents.free id
    rw [Kept.join_unlisted away] at step
    exact ⟨.unknown id, rfl, represents.says kept step rfl⟩
  next session found =>
    obtain ⟨_, told, same⟩ := Option.map_eq_some_iff.mp joined
    obtain ⟨rfl, rfl⟩ := Prod.mk.inj same
    have present := List.mem_of_find?_eq_some found
    have named : session.id = id := by simpa using List.find?_some found
    rw [represents.sessions] at present
    obtain ⟨launch, member, listed, called, ended⟩ := kept.launch_of_present present
    obtain ⟨watched, reaches⟩ :=
      join_reaches kept within represents.free represents.joining listed member (ended.trans told)
    refine ⟨_, rfl, represents.told kept _ reaches fun other _ => ?_⟩
    simp [Answer.handed, ← called, named]

theorem examine_reaches {pending : List Monitor} {found due : List SessionId}
    (sweeps : state.sweep = some ⟨pending, found, due⟩) :
    ∃ found, Reaches options state { state with sweep := some ⟨[], found, due⟩ } := by
  induction pending generalizing state found with
  | nil =>
    refine ⟨found, ?_⟩
    rw [← sweeps]
    exact .refl
  | cons monitor rest ih =>
    have step : Step options state _ := .examine sweeps
    obtain ⟨all, reaches⟩ := @ih
      { state with sweep := some ⟨rest, if state.hasEnded monitor then found ++ [monitor.id] else found, due⟩ } _ rfl
    exact ⟨all, .head step reaches⟩

theorem reap_reaches (kept : state.Kept) (within : state.launches.length ≤ UInt64.size) (free : state.sweep = none) :
    ∃ watched results, Reaches options state ({ state with watched }.answer (.reaped state.due results)) := by
  have locks : Step options state { state with sweep := some ⟨state.watched, [], state.due⟩ } := .lock free (.refl _)
  obtain ⟨found, examines⟩ := @examine_reaches options
    { state with sweep := some ⟨state.watched, [], state.due⟩ } _ _ _ rfl
  let taken := Monitor.withdraw found state.watched
  let batch : Batch := ⟨taken.1, state.due⟩
  let unlocked : Supervision := { state with watched := taken.2, sweep := none, batches := state.batches ++ [batch] }
  have unlocks : Step options { state with sweep := some ⟨[], found, state.due⟩ } unlocked := .unlock rfl
  have reaches : Reaches options state unlocked := .head locks (examines.tail unlocks)
  have still : unlocked.Kept := reaches.keeps kept within
  obtain ⟨ripe, _⟩ := still.batches batch (List.mem_append_right _ (List.mem_singleton_self _))
  have delivers : Step options unlocked _ := .deliver rfl ripe.ended
  have rest : { state with watched := taken.2, sweep := none, batches := state.batches ++ [] } =
      { state with watched := taken.2 } := by rw [List.append_nil, ← free]
  refine ⟨taken.2, unlocked.outcomes taken.1, reaches.tail ?_⟩
  rw [← rest]
  exact delivers

theorem Kept.mem_due (kept : state.Kept) (within : state.launches.length ≤ UInt64.size)
    (member : launch ∈ state.launches) (listed : launch.id ∈ state.sessionIds) (ended : launch.result?.isSome = true) :
    launch.id ∈ state.due := by
  obtain ⟨monitor, watched, named⟩ := List.mem_map.mp (mem_sessionIds.mp listed)
  refine Supervision.mem_due.mpr ⟨monitor, watched, named, ?_⟩
  unfold hasEnded
  rw [kept.result?_eq within (kept.watched monitor watched) member named]
  exact ended

theorem Kept.mem_reaped {watched : List Monitor} {results : List (SessionId × Except Session.Error Session.Summary)}
    (kept : state.Kept) (within : state.launches.length ≤ UInt64.size) (joining : state.joining = [])
    (batches : state.batches = [])
    (after : ({ state with watched }.answer (.reaped state.due results)).Kept)
    (entry : SessionId × Except Session.Error Session.Summary) :
    entry ∈ results ↔ ∃ session ∈ state.present, session.id = entry.1 ∧ session.result? = some entry.2 := by
  have handed : ({ state with watched }.answer (.reaped state.due results)).handed = state.handed ++ results :=
    handed_answer _ _
  have own (entry : SessionId × Except Session.Error Session.Summary) (member : entry ∈ results) :=
    after.own within entry (handed ▸ List.mem_append_right _ member)
  obtain ⟨_, complete⟩ := after.answers _ (List.mem_append_right _ (List.mem_singleton_self _))
  constructor
  · intro member
    obtain ⟨launch, there, named, listed, ended, _⟩ := own entry member
    have once := (after.collects within).once
    rw [handed, List.map_append] at once
    have here : launch.id ∉ state.collected := by
      unfold collected
      rw [joining, batches, named]
      exact fun old => (List.nodup_append.mp once).2.2 _ old _ (List.mem_map_of_mem member) rfl
    obtain ⟨session, present, same, told⟩ := kept.mem_present_of there listed here
    exact ⟨session, present, same.trans named, told.symm.trans ended⟩
  · rintro ⟨session, present, named, told⟩
    obtain ⟨launch, member, listed, same, ended⟩ := kept.launch_of_present present
    have due := kept.mem_due within member listed (by rw [ended, told]; rfl)
    obtain ⟨other, reaped, called⟩ := List.mem_map.mp (complete _ due)
    obtain ⟨another, there, known, _, result, _⟩ := own other reaped
    obtain rfl := kept.launch_unique within there member (known.trans called)
    have equal : other = entry := by
      refine Prod.ext (called.trans (same.symm.trans named)) (Option.some.inj ?_)
      rw [← result, ended, told]
    exact equal ▸ reaped

section Reaped

variable {results : List (SessionId × Except Session.Error Session.Summary)}

theorem Represents.reap_eq (represents : state.Represents options manager) (kept : state.Kept)
    (within : state.launches.length < UInt64.size) (ascending : SessionId.Ascending (·.1) results)
    (reaped : ∀ entry, entry ∈ results ↔
      ∃ session ∈ state.present, session.id = entry.1 ∧ session.result? = some entry.2) :
    results = manager.reap.1 := by
  apply ascending.unique
  · refine List.pairwise_filterMap.mpr ?_
    rw [represents.sessions]
    refine (kept.present_ascending within).imp fun below entry held other also => ?_
    obtain ⟨_, _, rfl⟩ := Option.map_eq_some_iff.mp held
    obtain ⟨_, _, rfl⟩ := Option.map_eq_some_iff.mp also
    exact below
  · intro entry
    rw [reaped entry]
    unfold Manager.reap
    rw [List.mem_filterMap, represents.sessions]
    constructor
    · rintro ⟨session, present, named, told⟩
      exact ⟨session, present, Option.map_eq_some_iff.mpr ⟨_, told, Prod.ext named rfl⟩⟩
    · rintro ⟨session, present, held⟩
      obtain ⟨result, told, rfl⟩ := Option.map_eq_some_iff.mp held
      exact ⟨session, present, rfl, told⟩

theorem Kept.reaped_iff (kept : state.Kept) (within : state.launches.length < UInt64.size)
    (reaped : ∀ entry, entry ∈ results ↔
      ∃ session ∈ state.present, session.id = entry.1 ∧ session.result? = some entry.2)
    {session : Session} (present : session ∈ state.present) :
    session.id ∈ results.map (·.1) ↔ session.hasEnded = true := by
  have once : (state.present.map (·.id)).Nodup := by
    rw [← kept.sessionIds_eq within]
    exact (SessionId.arrange_perm _ _).nodup_iff.mpr (List.nodup_append.mp kept.once).1
  have ended : session.hasEnded = session.result?.isSome := Option.isSome_map.symm
  rw [ended]
  constructor
  · intro member
    obtain ⟨entry, told, named⟩ := List.mem_map.mp member
    obtain ⟨other, there, called, result⟩ := (reaped entry).mp told
    obtain rfl := List.inj_on_of_nodup_map once there present (called.trans named)
    exact Option.isSome_iff_exists.mpr ⟨_, result⟩
  · intro some
    obtain ⟨result, told⟩ := Option.isSome_iff_exists.mp some
    exact List.mem_map.mpr ⟨(session.id, result), (reaped _).mpr ⟨session, present, rfl, told⟩, rfl⟩

end Reaped

theorem reap_continues (represents : state.Represents options manager) (kept : state.Kept)
    (within : state.launches.length < UInt64.size) :
    state.Continues options [.reaped state.due manager.reap.1] manager.reap.2 := by
  have bound := Nat.le_of_lt within
  obtain ⟨watched, results, reaches⟩ := @reap_reaches options _ kept bound represents.free
  have after := reaches.keeps kept bound
  have reaped := kept.mem_reaped bound represents.joining represents.batches after
  obtain ⟨ascending, _⟩ := after.answers _ (List.mem_append_right _ (List.mem_singleton_self _))
  rw [← represents.reap_eq kept within ascending reaped]
  refine represents.told kept _ reaches fun session present => ?_
  rw [Bool.not_eq_false']
  exact kept.reaped_iff within reaped present

/-- The calls of a manager are runs of threads, and are answered as they are there. -/
structure CallsRun (options : Session.Options) (state : Supervision) (manager : Manager) : Prop where
  spawn : state.Continues options [] manager.spawn.2
  spawnWith : ∀ request response, state.Continues options [] (manager.spawnWith request response).2
  round : state.Continues options [] manager.serveRound
  sessionIds : state.Continues options [.listed manager.sessionIds] manager
  join : ∀ id result after, manager.join id = some (result, after) →
    ∃ answer : Answer, answer.joined? = some result ∧ state.Continues options [answer] after
  reap : state.Continues options [.reaped state.due manager.reap.1] manager.reap.2

/-- However starts, ends, joins, reaps and listings of any number of threads come one after another, as long as
numbers last, every session is collected at most once and its end is told as it was; the list is of those that were
started and not collected, and a reap takes all that had ended before it and none that has not. The calls of a
manager are such runs. -/
theorem Reaches.collected_once (reaches : Reaches options (opened resources) state)
    (within : state.launches.length < UInt64.size) :
    state.Collects ∧ ∀ manager, state.Represents options manager → state.CallsRun options manager := by
  have bound := Nat.le_of_lt within
  have kept := reaches.keeps (opened_kept resources) bound
  refine ⟨kept.collects bound, fun manager represents => ?_⟩
  exact {
    spawn := spawn_continues represents kept within
    spawnWith := spawnWith_continues represents kept within
    round := serveRound_continues represents kept
    sessionIds := sessionIds_continues represents kept within
    join := fun _ _ _ joined => join_continues represents kept bound joined
    reap := reap_continues represents kept within }

def single (last : Launch × Session.Resources) (watched : List Monitor) : Supervision :=
  ⟨last.2, [last.1], watched, none, [], [], []⟩

/-- A session was aborted by the mistake of its client, and reaped. -/
def reapedOne : Supervision :=
  (single endedLaunch []).answer (.reaped [⟨1⟩] [(⟨1⟩, .error (.violation (.unknownOpcode 0x07)))])

theorem single_act {first last : Launch × Session.Resources} {services : List Session.Service}
    (act : Launch.Act options first services last) (listing : last.1.listing = first.1.listing)
    (watched : List Monitor) : Reaches options (single first watched) (single last watched) := by
  have act : Launch.Act options (first.1, (single first watched).resources) services (last.1, last.2) := act
  have runs : (single first watched).launches[0]? = some first.1 := rfl
  exact .single (.act runs act listing)

theorem single_advance (first : Launch × Session.Resources) (watched : List Monitor) :
    Reaches options (single first watched) (single (first.1.advance options first.2) watched) :=
  single_act (.advance first.1 first.2) (Launch.advance_keeps options first.1 first.2).2 watched

theorem reapedOne_reached : Reaches oneTable.options (opened clientRegion) reapedOne := by
  let request (state : Launch × Session.Resources) := state.1.advance oneTable.options state.2
  let allocated := request (request (.ordered ⟨1⟩, clientRegion))
  let monitor : Monitor := ⟨⟨1⟩, 0⟩
  have allocates : Step oneTable.options (opened clientRegion) { opened clientRegion with resources := allocated.2 } :=
    .meanwhile _ _
  have launches : Step oneTable.options { opened clientRegion with resources := allocated.2 } (single allocated []) :=
    .launch _ ⟨.anonymous 2, .anonymous 3, true⟩
  have starts : Reaches oneTable.options (single allocated []) (single startedLaunch []) :=
    ((single_advance _ []).trans (single_advance _ [])).trans (single_advance _ [])
  have runs : (single startedLaunch []).launches[0]? = some startedLaunch.1 := rfl
  have enrolls : Step oneTable.options (single startedLaunch []) (single (listedLaunch, startedLaunch.2) [monitor]) :=
    .enroll rfl runs trivial rfl
  have raises : Step oneTable.options (single (listedLaunch, startedLaunch.2) [monitor])
      (single (listedLaunch, wrongFlag) [monitor]) :=
    .meanwhile _ _
  have ends : Reaches oneTable.options (single (listedLaunch, wrongFlag) [monitor]) (single endedLaunch [monitor]) :=
    (((single_act abortedLaunch_act rfl _).trans (single_advance _ _)).trans (single_advance _ _)).trans
      (single_advance _ _)
  let sweeping (pending : List Monitor) (found : List SessionId) : Supervision :=
    { single endedLaunch [monitor] with sweep := some ⟨pending, found, [⟨1⟩]⟩ }
  let unlocked : Supervision := { single endedLaunch [] with batches := [⟨[monitor], [⟨1⟩]⟩] }
  have locks : Step oneTable.options (single endedLaunch [monitor]) (sweeping [monitor] []) := .lock rfl (.refl _)
  have looks : (sweeping [monitor] []).sweep = some ⟨[monitor], [], [⟨1⟩]⟩ := rfl
  have examines : Step oneTable.options (sweeping [monitor] []) (sweeping [] [⟨1⟩]) := .examine looks
  have looked : (sweeping [] [⟨1⟩]).sweep = some ⟨[], [⟨1⟩], [⟨1⟩]⟩ := rfl
  have unlocks : Step oneTable.options (sweeping [] [⟨1⟩]) unlocked := .unlock looked
  have told : unlocked.outcomes [monitor] = [(⟨1⟩, .error (.violation (.unknownOpcode 0x07)))] :=
    List.mergeSort_singleton _
  have waits : unlocked.batches = [] ++ ⟨[monitor], [⟨1⟩]⟩ :: [] := rfl
  have delivers : Step oneTable.options unlocked reapedOne := by
    unfold reapedOne
    rw [← told]
    exact .deliver waits (List.forall_mem_singleton.mpr rfl)
  have begun : Reaches oneTable.options (opened clientRegion) (single startedLaunch []) :=
    .head allocates (.head launches starts)
  have served : Reaches oneTable.options (single startedLaunch []) (single endedLaunch [monitor]) :=
    .head enrolls (.head raises ends)
  have reaped : Reaches oneTable.options (single endedLaunch [monitor]) reapedOne :=
    .head locks (.head examines (.head unlocks (.single delivers)))
  exact (begun.trans served).trans reaped

def reapedManager : Manager := { oneTable with resources := endedLaunch.2, launched := 1 }

theorem reapedOne_collected : Reaches oneTable.options (opened clientRegion) reapedOne ∧ reapedOne.Collects ∧
    reapedOne.handed = [(⟨1⟩, .error (.violation (.unknownOpcode 0x07)))] ∧
    reapedOne.join ⟨1⟩ = reapedOne.answer (.unknown ⟨1⟩) ∧
    reapedOne.Represents oneTable.options reapedManager ∧ reapedOne.CallsRun oneTable.options reapedManager := by
  have ⟨collects, run⟩ := reapedOne_reached.collected_once (by decide)
  have represents : reapedOne.Represents oneTable.options reapedManager := ⟨rfl, rfl, rfl, rfl, rfl, rfl, rfl⟩
  exact ⟨reapedOne_reached, collects, rfl, collects.unknown ⟨1⟩ (.inl (List.mem_singleton_self _)), represents,
    run reapedManager represents⟩

end Supervision

end SharedRecords.Manager
