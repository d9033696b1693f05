import SharedRecords.Proofs.Manager.Opening
import SharedRecords.Proofs.Session.Exchange
import SharedRecords.Proofs.Session.Lifecycle

/-!
From a launch to an open client, over any two regions. A client that connects at the address of a session
that has just started is joined to it, and neither has said anything yet.
-/

namespace SharedRecords

namespace Client

theorem connect_poller {pool later : Region.Pool} {address : Channel.Address} {options : Options}
    {client : Client} (connected : connect pool address options = (.ok client, later)) :
    client.channel.poller = options.poller := by
  unfold connect openChannel at connected
  split at connected
  next => cases congrArg Prod.fst connected
  next channel last opened =>
    obtain rfl := Except.ok.inj (congrArg Prod.fst connected)
    split at opened
    next => cases congrArg Prod.fst opened
    next =>
      split at opened
      next => cases congrArg Prod.fst opened
      next =>
        obtain rfl := Except.ok.inj (congrArg Prod.fst opened)
        rfl

end Client

namespace Session

variable {resources later : Resources} {holding : Holding} {session : Session} {link : Link}
  {request response : Region.Window} {client : Client} {options : Client.Options} {pool : Region.Pool}

theorem start_requests (id : SessionId) (holding : Holding) (options : Options) (resources : Resources) :
    (start id holding options resources).2.1.requests = 0 := by
  unfold start open?
  dsimp only
  split
  · rfl
  · split
    · rfl
    · split
      · rfl
      · rfl
      · rfl

namespace Started

theorem next (started : Started resources later holding session link request response) :
    later.memory.next = resources.memory.next := by
  rw [started.memory, Region.Memory.next_setFlag, Region.Memory.next_setFlag]

theorem lowered (started : Started resources later holding session link request response)
    (sound : resources.pool.Sound) (apart : request.index ≠ response.index) :
    later.memory.flag request.index = Wire.emptyFlag ∧ later.memory.flag response.index = Wire.emptyFlag := by
  have request_inside : request.index < resources.memory.next :=
    Region.Pool.locate_inside sound started.locates_request
  have response_inside : response.index < resources.memory.next :=
    Region.Pool.locate_inside sound started.locates_response
  rw [started.memory]
  constructor
  · rw [Region.Memory.flag_setFlag_of_ne apart.symm, Region.Memory.flag_setFlag request_inside]
  · apply Region.Memory.flag_setFlag
    rw [Region.Memory.next_setFlag]
    exact response_inside

theorem joined (started : Started resources later holding session link request response)
    (sound : resources.pool.Sound) (apart : request.index ≠ response.index)
    (request_countable : request.capacity < UInt64.size) (response_countable : response.capacity < UInt64.size)
    (connect : Client.connect later.pool session.address options = (.ok client, pool)) :
    Joined client link pool.memory ∧ pool.memory = later.memory := by
  obtain ⟨_, _, requested, responded, asked, told, ready, untouched⟩ := Client.connect_ok connect
  rw [started.address.1, started.located] at requested
  rw [started.address.2, started.located] at responded
  obtain rfl := Except.ok.inj (started.locates_request.symm.trans requested)
  obtain rfl := Except.ok.inj (started.locates_response.symm.trans responded)
  have next : pool.memory.next = resources.memory.next := by
    rw [untouched]
    exact started.next
  have small (window : Region.Window) (countable : window.capacity < UInt64.size) :
      window.room < UInt64.size := Nat.lt_of_le_of_lt (Nat.sub_le _ _) countable
  refine ⟨?_, untouched⟩
  constructor
  · rw [asked, started.asked, started.address.1]
  · rw [told, started.told, started.address.2]
  · exact ready
  · constructor
    · rw [started.asked, started.told]
      exact apart
    · rw [started.asked, next]
      exact Region.Pool.locate_inside sound started.locates_request
    · rw [started.told, next]
      exact Region.Pool.locate_inside sound started.locates_response
  · rw [started.asked]
    exact small request request_countable
  · rw [started.told]
    exact small response response_countable

end Started

end Session

namespace Manager

variable {manager later spawned connected : Manager} {holding : Session.Holding}
  {address : Channel.Address} {options : Client.Options} {client : Client} {request response : Region.Window}

/-- A client and the session it has just connected to. -/
structure Opened (manager connected : Manager) (client : Client) (session : Session) (link : Session.Link)
    (request response : Region.Window) : Prop where
  sessions : connected.sessions = manager.sessions ++ [session]
  held : session.link = some link
  request : link.channel.request.toWindow = request
  response : link.channel.response.toWindow = response
  joined : Session.Joined client link connected.memory
  quiet : connected.memory.flag link.channel.request.index = Wire.emptyFlag
  lowered : connected.memory.flag link.channel.response.index = Wire.emptyFlag
  requests : session.requests = 0
  journal : session.journal = Session.openingJournal
  unended : session.ending = none

theorem started_of_launch (launched : manager.launch holding = (.ok address, later)) :
    ∃ session resources,
      Session.start ⟨UInt64.ofNat (manager.launched + 1)⟩ holding manager.options manager.resources =
        (none, session, resources) ∧
      address = session.address ∧
      later = { manager with launched := manager.launched + 1, resources }.enroll session := by
  unfold launch at launched
  dsimp only at launched
  rcases began : Session.start ⟨UInt64.ofNat (manager.launched + 1)⟩ holding manager.options
    manager.resources with ⟨failure, session, resources⟩
  rw [began] at launched
  cases failure with
  | some error => cases congrArg Prod.fst launched
  | none =>
    obtain ⟨same, rfl⟩ := Prod.mk.inj launched
    exact ⟨session, resources, rfl, (Except.ok.inj same).symm, rfl⟩

theorem opened_of_launch (sound : manager.Sound) (launched : manager.launch holding = (.ok address, spawned))
    (connect : spawned.connect address options = (.ok client, connected))
    (asks : manager.pool.locate holding.request = .ok request)
    (tells : manager.pool.locate holding.response = .ok response) (apart : request.index ≠ response.index)
    (request_countable : request.capacity < UInt64.size) (response_countable : response.capacity < UInt64.size) :
    ∃ session link, manager.Opened connected client session link request response := by
  obtain ⟨session, resources, start, rfl, rfl⟩ := started_of_launch launched
  have began := Session.start_began ⟨UInt64.ofNat (manager.launched + 1)⟩ holding manager.options
    manager.resources
  have requests := Session.start_requests ⟨UInt64.ofNat (manager.launched + 1)⟩ holding manager.options
    manager.resources
  rw [start] at began requests
  obtain ⟨link, asked, told, started⟩ := Session.start_of_none start
  obtain rfl := Except.ok.inj (asks.symm.trans started.locates_request)
  obtain rfl := Except.ok.inj (tells.symm.trans started.locates_response)
  unfold Manager.connect at connect
  rcases attempt : Client.connect resources.pool session.address options with ⟨result, last⟩
  rw [show Manager.pool _ = resources.pool from rfl, attempt] at connect
  obtain ⟨rfl, rfl⟩ := Prod.mk.inj connect
  obtain ⟨joined, untouched⟩ :=
    started.joined sound.resources.pool apart request_countable response_countable attempt
  obtain ⟨quiet, lowered⟩ := started.lowered sound.resources.pool apart
  refine ⟨session.enter .serving, link, ?_⟩
  exact {
    sessions := rfl
    held := started.held
    request := by rw [started.asked]
    response := by rw [started.told]
    joined
    quiet := by
      rw [started.asked]
      show last.memory.flag request.index = _
      rw [untouched]
      exact quiet
    lowered := by
      rw [started.told]
      show last.memory.flag response.index = _
      rw [untouched]
      exact lowered
    requests
    journal := by
      show .entered .serving :: session.journal = _
      rw [began.1]
      rfl
    unended := began.2 }

theorem opened_of_spawn (sound : manager.Sound) (spawn : manager.spawn = (.ok address, spawned))
    (connect : spawned.connect address options = (.ok client, connected)) :
    ∃ session link, manager.Opened connected client session link
      ⟨manager.memory.next, manager.options.capacity⟩ ⟨manager.memory.next + 1, manager.options.capacity⟩ := by
  have between_sound := sound.allocatePair
  unfold Manager.spawn at spawn
  cases installed : manager.schema with
  | none =>
    rw [installed] at spawn
    cases congrArg Prod.fst spawn
  | some schema =>
    rw [installed] at spawn
    dsimp only at spawn
    rcases allocated : manager.allocatePair with ⟨result, between⟩
    rw [allocated] at spawn between_sound
    cases result with
    | error error => cases congrArg Prod.fst spawn
    | ok holding =>
      obtain ⟨asks, tells, _, countable, kept⟩ := allocatePair_ok sound allocated
      have apart : manager.memory.next ≠ manager.memory.next + 1 := (Nat.succ_ne_self _).symm
      obtain ⟨session, link, opened⟩ :=
        opened_of_launch between_sound spawn connect asks tells apart countable countable
      refine ⟨session, link, { opened with sessions := ?_ }⟩
      rw [opened.sessions, kept]

theorem opened_of_spawnWith {asking telling : Region.Handle} (sound : manager.Sound)
    (spawn : manager.spawnWith asking telling = (.ok address, spawned))
    (connect : spawned.connect address options = (.ok client, connected))
    (asks : manager.pool.locate asking = .ok request) (tells : manager.pool.locate telling = .ok response)
    (apart : request.index ≠ response.index) (request_countable : request.capacity < UInt64.size)
    (response_countable : response.capacity < UInt64.size) :
    ∃ session link, manager.Opened connected client session link request response := by
  unfold Manager.spawnWith at spawn
  cases installed : manager.schema with
  | none =>
    rw [installed] at spawn
    cases congrArg Prod.fst spawn
  | some schema =>
    rw [installed] at spawn
    exact opened_of_launch sound spawn connect asks tells apart request_countable response_countable

end Manager

end SharedRecords
