import SharedRecords.Proofs.Manager.Recorded

/-!
What the counters of a manager know of each of its sessions. An act changes the counters just as it changes
the account of the session that acts, so that each counter is a sum over all sessions there have been.
-/

namespace SharedRecords

open Region (Handle Spot)
open Session (Service)

namespace Metrics

/-- All names under which operations are counted. -/
def labels : List (Wire.Opcode × Wire.Status) :=
  Wire.Opcode.all.flatMap fun opcode => Wire.Status.all.map fun status => (opcode, status)

def served (metrics : Metrics) : Nat := Number.total (labels.map fun label => metrics.count label.1 label.2)

theorem mem_labels (opcode : Wire.Opcode) (status : Wire.Status) : (opcode, status) ∈ labels := by
  cases opcode <;> cases status <;> decide

@[simp] theorem protocolErrors_record (metrics : Metrics) (opcode : Wire.Opcode) (status : Wire.Status)
    (elapsed : Duration) : (metrics.record opcode status elapsed).protocolErrors = metrics.protocolErrors := rfl

@[simp] theorem protocolErrors_protocolError (metrics : Metrics) :
    metrics.protocolError.protocolErrors = metrics.protocolErrors + 1 := rfl

@[simp] theorem served_protocolError (metrics : Metrics) : metrics.protocolError.served = metrics.served := rfl

@[simp] theorem served_record (metrics : Metrics) (opcode : Wire.Opcode) (status : Wire.Status) (elapsed : Duration) :
    (metrics.record opcode status elapsed).served = metrics.served + 1 :=
  metrics.operations.total_count_add (by decide) (mem_labels opcode status) 1

@[simp] theorem served_touch (metrics : Metrics) (opcode : Wire.Opcode) (status : Wire.Status) :
    (metrics.touch opcode status).served = metrics.served := by
  unfold served
  simp only [count_touch]

theorem count_record_of_ne (metrics : Metrics) {opcode other : Wire.Opcode} {status told : Wire.Status}
    (apart : (opcode, status) ≠ (other, told)) (elapsed : Duration) :
    (metrics.record opcode status elapsed).count other told = metrics.count other told :=
  metrics.operations.count_add_of_ne apart 1

end Metrics

namespace Session

variable {session opened : Session} {channel : Channel.ServerEnd} {resources later : Resources}

theorem hasAborted_note (session : Session) (event : Event) (other : event ≠ .published .aborted) :
    (session.note event).hasAborted = session.hasAborted := by
  unfold hasAborted note
  rw [List.contains_cons, beq_eq_false_iff_ne.mpr other.symm, Bool.false_or]

theorem hasAborted_of_noted (session : Session) : (session.note (.published .aborted)).hasAborted = true := by
  unfold hasAborted note
  rw [List.contains_cons, beq_self_eq_true, Bool.true_or]

theorem hasAborted_enter (session : Session) (state : State) : (session.enter state).hasAborted = session.hasAborted :=
  session.hasAborted_note (.entered state) nofun

theorem hasAborted_unmapped (session : Session) : session.unmapped.hasAborted = session.hasAborted :=
  ((session.enter .closing).hasAborted_note .unmapped nofun).trans (session.hasAborted_enter .closing)

theorem open?_opened (opening : session.open? channel resources = (none, opened, later)) :
    ∃ context, opened = { session.enter .ready with link := some ⟨channel, context⟩ } := by
  unfold open? at opening
  split at opening
  · nomatch congrArg Prod.fst opening
  · nomatch congrArg Prod.fst opening
  next context backend _ =>
    obtain ⟨_, rfl, rfl⟩ := opening
    exact ⟨context, rfl⟩

theorem open?_metrics (session : Session) (channel : Channel.ServerEnd) (resources : Resources) :
    (session.open? channel resources).2.2.metrics = resources.metrics := by
  unfold open?
  split
  · rfl
  · rfl
  · rfl

end Session

namespace Manager

/-- How far a session has come, as far as anything is counted: the requests it took, and whether it has
published that it aborts. -/
inductive Account where
  | pending
  | failed
  | serving (requests : Nat)
  /-- The store has crashed under a request. -/
  | struck (requests : Nat)
  /-- The session has published its last response. -/
  | parting (requests : Nat) (aborted : Bool)
  /-- The store has crashed under the session as it gave its context back. -/
  | stranded (requests : Nat) (aborted : Bool)
  | terminated (requests : Nat) (aborted : Bool)

namespace Account

/-- All that is ever counted, with what is served and the account of the session. -/
inductive Entry : Account → Metrics → List Service → Account → Metrics → Prop where
  | quiet (account : Account) (metrics : Metrics) : Entry account metrics [] account metrics
  | fails (metrics : Metrics) : Entry .pending metrics [] .failed metrics.spawnFailed
  | starts (metrics : Metrics) : Entry .pending metrics [] (.serving 0) metrics.sessionSpawned
  | answers {opcode : Wire.Opcode} {told : Wire.Status} (other : opcode ≠ .close) (known : told ≠ .aborted)
      (requests : Nat) (metrics : Metrics) (elapsed : Duration) :
      Entry (.serving requests) metrics [⟨opcode.byte, some told⟩] (.serving (requests + 1))
        (metrics.record opcode told elapsed)
  | strikes (requests : Nat) (metrics : Metrics) (flag : UInt8) :
      Entry (.serving requests) metrics [⟨flag, none⟩] (.struck (requests + 1)) metrics
  | aborts (requests : Nat) (metrics : Metrics) (flag : UInt8) :
      Entry (.serving requests) metrics [⟨flag, some .aborted⟩] (.parting (requests + 1) true) metrics.protocolError
  | closes (requests : Nat) (metrics : Metrics) (elapsed : Duration) :
      Entry (.serving requests) metrics [⟨Wire.Opcode.close.byte, some .ok⟩] (.parting (requests + 1) false)
        (metrics.record .close .ok elapsed)
  | strands (requests : Nat) (aborted : Bool) (metrics : Metrics) :
      Entry (.parting requests aborted) metrics [] (.stranded requests aborted) metrics
  | terminates (requests : Nat) (aborted : Bool) (metrics : Metrics) :
      Entry (.parting requests aborted) metrics [] (.terminated requests aborted) metrics.sessionTerminated

end Account

namespace Progress

def account : Progress → Account
  | asking | halfway _ | equipped _ | watching .. | attached .. => .pending
  | leaving _ => .failed
  | started session => if session.hasEnded then .struck session.requests else .serving session.requests
  | closing session _ _ => .parting session.requests session.hasAborted
  | ended session =>
    match session.ending with
    | some (.finished _) => .terminated session.requests session.hasAborted
    | some .crashed | none => .stranded session.requests session.hasAborted

theorem account_of_serving {session : Session} (unended : session.ending = none) :
    (started session).account = .serving session.requests := by
  have serving : ¬ session.hasEnded = true := by
    unfold Session.hasEnded
    rw [unended]
    exact nofun
  exact if_neg serving

end Progress

/-- The session has published that it aborts just if it ends on a violation, and else it was asked to close. -/
inductive Farewell (session : Session) : Except Session.Error Session.Summary → Prop where
  | asked (kept : session.hasAborted = false) (summary : Session.Summary) : Farewell session (.ok summary)
  | broken (aborted : session.hasAborted = true) (cause : Session.Violation) :
      Farewell session (.error (.violation cause))

theorem Farewell.of_same {session later : Session} {result : Except Session.Error Session.Summary}
    (farewell : Farewell session result) (same : later.hasAborted = session.hasAborted) : Farewell later result := by
  cases farewell with
  | asked kept summary => exact .asked (same.trans kept) summary
  | broken aborted cause => exact .broken (same.trans aborted) cause

/-- What a session has said and how it stands, where it has come to. -/
def Progress.Orderly : Progress → Prop
  | asking | halfway _ | equipped _ | watching .. | leaving _ => True
  | attached session _ => session.hasAborted = false ∧ session.requests = 0 ∧ session.ending = none
  | started session => session.hasAborted = false ∧ session.state = .serving ∧
    session.ending = session.link.elim (some .crashed) fun _ => none
  | closing session result _ => session.state = .closing ∧ Farewell session result
  | ended session => (session.state = .closing ∧ session.ending = some .crashed) ∨
    ∃ result, session.state = .terminated ∧ session.ending = some (.finished result) ∧ Farewell session result

namespace Launch

def account (launch : Launch) : Account := launch.progress.account

def Orderly (launch : Launch) : Prop := launch.progress.Orderly

variable {options : Session.Options} {launch later : Launch} {session served leaving : Session}
  {resources after between : Session.Resources} {elapsed : Duration} {first last : Launch × Session.Resources}
  {services : List Service} {result : Except Session.Error Session.Summary}

def Enters (launch : Launch) (metrics : Metrics) (services : List Service) (later : Launch) (after : Metrics) : Prop :=
  Account.Entry launch.account metrics services later.account after ∧ later.Orderly

theorem Orderly.stays (orderly : launch.Orderly) (metrics : Metrics) : launch.Enters metrics [] launch metrics :=
  ⟨.quiet _ _, orderly⟩

theorem attached_enters {channel : Channel.ServerEnd} (attached : launch.progress = .attached session channel)
    (orderly : launch.Orderly) (resources : Session.Resources) :
    launch.Enters resources.metrics [] (launch.advance options resources).1
      (launch.advance options resources).2.metrics := by
  unfold Orderly at orderly
  rw [attached] at orderly
  obtain ⟨kept, fresh, unended⟩ := orderly
  have pending : launch.account = .pending := congrArg Progress.account attached
  have same := session.open?_metrics channel resources
  unfold Enters advance
  rw [pending, attached]
  dsimp only
  rcases opening : session.open? channel resources with ⟨_ | error, opened, after⟩
  · rw [opening] at same
    obtain ⟨context, rfl⟩ := Session.open?_opened opening
    let serving := { session.enter .ready with link := some ⟨channel, context⟩ }.enter .serving
    have silent : serving.hasAborted = false :=
      ((session.enter .ready).hasAborted_enter .serving).trans ((session.hasAborted_enter .ready).trans kept)
    have unserved : (Progress.started serving).account = .serving 0 :=
      (Progress.account_of_serving unended).trans (congrArg Account.serving fresh)
    refine ⟨?_, silent, rfl, unended⟩
    dsimp only at same
    -- the session is counted by itself, before the manager hears of it
    show Account.Entry .pending resources.metrics [] (Progress.started serving).account after.metrics.sessionSpawned
    rw [unserved, same]
    exact .starts _
  · rw [opening] at same
    refine ⟨?_, trivial⟩
    dsimp only at same
    rw [← same]
    exact .fails _

theorem closing_enters (closing : launch.progress = .closing session result []) (orderly : launch.Orderly)
    (resources : Session.Resources) :
    launch.Enters resources.metrics [] (launch.advance options resources).1
      (launch.advance options resources).2.metrics := by
  unfold Orderly at orderly
  rw [closing] at orderly
  obtain ⟨state, farewell⟩ := orderly
  have parting : launch.account = .parting session.requests session.hasAborted := congrArg Progress.account closing
  unfold Enters advance
  rw [parting, closing]
  dsimp only [moves]
  unfold Session.closeContext
  cases resources.backend.closeContext with
  | crashed => exact ⟨.strands _ _ _, .inl ⟨state, rfl⟩⟩
  | finished closed backend =>
    dsimp only
    let released := session.note .contextClosed
    have quiet : (released.enter .terminated).hasAborted = session.hasAborted :=
      (released.hasAborted_enter .terminated).trans (session.hasAborted_note .contextClosed nofun)
    refine ⟨?_, .inr ⟨result, rfl, rfl, farewell.of_same quiet⟩⟩
    show Account.Entry _ _ _ (.terminated session.requests (released.enter .terminated).hasAborted) _
    rw [quiet]
    exact .terminates _ _ _

theorem advance_enters (options : Session.Options) (orderly : launch.Orderly) (resources : Session.Resources) :
    launch.Enters resources.metrics [] (launch.advance options resources).1
      (launch.advance options resources).2.metrics := by
  obtain ⟨id, owned, progress, listing, granted, returned⟩ := launch
  cases progress with
  | asking =>
    unfold advance
    dsimp only
    rcases resources.pool.allocate options.capacity with ⟨error | request, pool⟩
    · exact ⟨.fails _, trivial⟩
    · exact ⟨.quiet _ _, trivial⟩
  | halfway request =>
    unfold advance
    dsimp only
    rcases resources.pool.allocate options.capacity with ⟨error | response, pool⟩
    · exact ⟨.fails _, trivial⟩
    · exact ⟨.quiet _ _, trivial⟩
  | equipped holding =>
    unfold advance
    dsimp only
    rcases resources.pool.map holding.request with ⟨error | request, pool⟩
    · exact ⟨.fails _, trivial⟩
    · exact ⟨.quiet _ _, trivial⟩
  | watching holding request =>
    unfold advance
    dsimp only
    rcases resources.pool.map holding.response with ⟨error | response, pool⟩
    · exact ⟨.fails _, trivial⟩
    · exact ⟨.quiet _ _, rfl, rfl, rfl⟩
  | attached session channel => exact attached_enters rfl orderly resources
  | started session | ended session => exact orderly.stays _
  | closing session result rest =>
    cases rest with
    | nil => exact closing_enters rfl orderly resources
    | cons handle rest =>
      obtain ⟨state, farewell⟩ := orderly
      have quiet := session.hasAborted_note (.released handle) nofun
      refine ⟨?_, state, farewell.of_same quiet⟩
      show Account.Entry _ _ _ (.parting session.requests (session.note (.released handle)).hasAborted) _
      rw [quiet]
      exact .quiet _ _
  | leaving rest =>
    cases rest with
    | nil => exact orderly.stays _
    | cons handle rest => exact ⟨.quiet _ _, trivial⟩

theorem Orderly.unended {link : Session.Link} (orderly : launch.Orderly) (serves : launch.progress = .started session)
    (held : session.link = some link) : session.ending = none := by
  unfold Orderly at orderly
  rw [serves] at orderly
  obtain ⟨_, _, linked⟩ := orderly
  rw [held] at linked
  exact linked

theorem Orderly.hasEnded_eq (orderly : launch.Orderly) (serves : launch.progress = .started session)
    (link : Session.Link) (held : session.link = some link) : session.hasEnded = false :=
  congrArg Option.isSome (orderly.unended serves held)

theorem account_of_linked {link : Session.Link} (serves : launch.progress = .started session) (orderly : launch.Orderly)
    (held : session.link = some link) : launch.account = .serving session.requests :=
  (congrArg Progress.account serves).trans (Progress.account_of_serving (orderly.unended serves held))

theorem turn_enters (serves : launch.progress = .started session) (orderly : launch.Orderly)
    (turn : session.serve elapsed resources = (served, after)) (serving : served.state = .serving) :
    launch.Enters resources.metrics (session.noted resources served) (launch.moves (.started served))
      after.metrics := by
  have account (link : Session.Link) (held : session.link = some link) :=
    account_of_linked serves orderly held
  have same : launch.account = (Progress.started session).account := congrArg Progress.account serves
  unfold Orderly at orderly
  rw [serves] at orderly
  obtain ⟨kept, state, linked⟩ := orderly
  have outcome := session.serve_turn elapsed resources
  have gone (leaving : Session) (result : Except Session.Error Session.Summary) (between : Session.Resources)
      (torn : leaving.teardown result between = (served, after)) : False := by
    have stopped := leaving.teardown_state result between
    rw [torn] at stopped
    exact stopped serving
  rw [turn] at outcome
  unfold Enters
  generalize came : (served, after) = pair at outcome
  cases outcome with
  | idle idle =>
    obtain ⟨rfl, rfl⟩ := Prod.mk.inj came
    rw [Session.noted_of_idle idle, same]
    exact ⟨.quiet _ _, kept, state, linked⟩
  | refused held refuses => exact (gone _ _ _ came.symm).elim
  | closed held asks => exact (gone _ _ _ came.symm).elim
  | overflowed held asks other handled overflow => exact (gone _ _ _ came.symm).elim
  | crashed held asks other crashed =>
    obtain ⟨rfl, rfl⟩ := Prod.mk.inj came
    have silent : session.said? session.counted.crash = none := Session.said?_of_same rfl
    rw [Session.noted_of_asks held asks, silent, account _ held]
    exact ⟨.strikes _ _ _, kept, state, rfl⟩
  | @answered link request outcome backend context status memory held asks stays handled published =>
    obtain ⟨rfl, rfl⟩ := Prod.mk.inj came
    have known := Session.publish_ne_aborted published
    rw [Session.noted_of_asks held asks, Session.said?_of_published rfl, account _ held]
    rw [held] at linked
    have answering : (Progress.started (session.answered link context status)).account =
      .serving (session.requests + 1) := Progress.account_of_serving linked
    have other : Session.Event.published status ≠ .published .aborted :=
      fun same => known (Session.Event.published.inj same)
    have silent := (session.counted.hasAborted_note (.published status) other).trans kept
    refine ⟨?_, silent, state, linked⟩
    show Account.Entry _ _ _ (Progress.started (session.answered link context status)).account _
    rw [answering]
    exact .answers (request.opcode_ne_close stays) known _ _ _

theorem part_enters (serves : launch.progress = .started session) (orderly : launch.Orderly)
    (leaves : session.Leaves elapsed resources leaving result between) :
    launch.Enters resources.metrics (session.noted resources leaving)
      (launch.moves (.closing leaving.unmapped result leaving.holding.owns)) between.metrics := by
  have account (link : Session.Link) (held : session.link = some link) :=
    account_of_linked serves orderly held
  unfold Orderly at orderly
  rw [serves] at orderly
  obtain ⟨kept, _⟩ := orderly
  have parting : (launch.moves (.closing leaving.unmapped result leaving.holding.owns)).account =
      .parting leaving.requests leaving.hasAborted :=
    congrArg (Account.parting leaving.requests) leaving.hasAborted_unmapped
  have aborting := session.counted.hasAborted_of_noted
  have closing := (session.counted.hasAborted_note (.published .ok) nofun).trans kept
  unfold Enters
  rw [parting]
  cases leaves with
  | refused held refuses =>
    obtain ⟨flag, taken⟩ := Session.noted_of_refuses held refuses (session.counted.note (.published .aborted))
    rw [taken, Session.said?_of_published rfl, account _ held, aborting]
    exact ⟨.aborts _ _ flag, rfl, .broken ((Session.hasAborted_unmapped _).trans aborting) _⟩
  | closed held asks =>
    rw [Session.noted_of_asks held asks, Session.said?_of_published rfl, account _ held, closing]
    exact ⟨.closes _ _ _, rfl, .asked ((Session.hasAborted_unmapped _).trans closing) _⟩
  | @overflowed link request outcome backend context cause memory held asks other handled overflow =>
    rw [Session.noted_of_asks held asks, Session.said?_of_published rfl, account _ held, aborting]
    exact ⟨.aborts _ _ _, rfl, .broken ((Session.hasAborted_unmapped _).trans aborting) _⟩

/-- Whatever a session does, its account tells what was counted, and it stays in order. What it notes is what
its client finds in the response flag. -/
theorem Act.noted (act : Act options first services last) (orderly : first.1.Orderly) :
    ∃ noted, first.1.Enters first.2.metrics noted last.1 last.2.metrics ∧
      (first.1.Mapped first.2.memory → services = noted) := by
  cases act with
  | advance launch resources => exact ⟨_, advance_enters options orderly resources, fun _ => rfl⟩
  | @threadless launch holding held resources =>
    have pending : launch.account = .pending := congrArg Progress.account held
    refine ⟨[], ⟨?_, trivial⟩, fun _ => rfl⟩
    dsimp only at pending ⊢
    rw [pending]
    exact .fails _
  | turn serves served serving =>
    refine ⟨_, turn_enters serves orderly served serving, fun mapped => ?_⟩
    exact Session.services_eq_noted (mapped.serves serves) (orderly.hasEnded_eq serves) served serving
  | part serves leaves =>
    refine ⟨_, part_enters serves orderly leaves, fun mapped => ?_⟩
    exact leaves.services_eq_noted (mapped.serves serves) (orderly.hasEnded_eq serves)
  | enroll | collect => exact ⟨[], ⟨.quiet _ _, orderly⟩, fun _ => rfl⟩

theorem Act.orderly (act : Act options first services last) (orderly : first.1.Orderly) : last.1.Orderly := by
  obtain ⟨_, enters, _⟩ := act.noted orderly
  exact enters.2

theorem Act.enters (act : Act options first services last) (orderly : first.1.Orderly)
    (mapped : first.1.Mapped first.2.memory) :
    first.1.Enters first.2.metrics services last.1 last.2.metrics := by
  obtain ⟨_, enters, same⟩ := act.noted orderly
  exact same mapped ▸ enters

end Launch

end Manager

end SharedRecords
