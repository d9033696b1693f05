import SharedRecords.Proofs.Manager.Reached
import SharedRecords.Proofs.Manager.Transport

/-!
From a spawn to an open client. The session of a spawn has two fresh regions of one size, and a client
that connects at its address maps the same two.
-/

namespace SharedRecords

namespace Client

theorem connect_ok {pool later : Region.Pool} {address : Channel.Address} {options : Options}
    {client : Client} (connected : connect pool address options = (.ok client, later)) :
    ∃ request response : Region.Window,
      pool.locate address.request = .ok request ∧ pool.locate address.response = .ok response ∧
      client.channel.request = { request with handle := address.request } ∧
      client.channel.response = { response with handle := address.response } ∧
      client.channel.state = .ready ∧ later.memory = pool.memory := by
  unfold connect openChannel at connected
  rcases first : pool.map address.request with ⟨result, mapped⟩
  rw [first] at connected
  cases result with
  | error error => cases congrArg Prod.fst connected
  | ok request =>
    dsimp only at connected
    rcases second : mapped.map address.response with ⟨result, last⟩
    rw [second] at connected
    cases result with
    | error error => cases congrArg Prod.fst connected
    | ok response =>
      obtain ⟨⟨asked, requested, rfl⟩, _, rfl⟩ := Region.Pool.map_eq first
      obtain ⟨⟨told, responded, rfl⟩, _, rfl⟩ := Region.Pool.map_eq second
      obtain ⟨same, rfl⟩ := Prod.mk.inj connected
      obtain rfl := Except.ok.inj same
      exact ⟨asked, told, requested, responded, rfl, rfl, rfl, rfl⟩

end Client

namespace Manager

variable {manager later spawned connected : Manager} {holding : Session.Holding}
  {address : Channel.Address} {options : Client.Options} {client : Client}

theorem allocatePair_ok (sound : manager.Sound) (allocated : manager.allocatePair = (.ok holding, later)) :
    later.pool.locate holding.request = .ok ⟨manager.memory.next, manager.options.capacity⟩ ∧
      later.pool.locate holding.response = .ok ⟨manager.memory.next + 1, manager.options.capacity⟩ ∧
      later.memory.next = manager.memory.next + 2 ∧ manager.options.capacity < UInt64.size ∧
      later.sessions = manager.sessions := by
  unfold allocatePair at allocated
  dsimp only at allocated
  rcases first : manager.pool.allocate manager.options.capacity with ⟨result, pool⟩
  rw [first] at allocated
  cases result with
  | error error => cases congrArg Prod.fst allocated
  | ok request =>
    have granted := Region.Pool.allocate_granted sound.resources.pool first
    have still := sound.resources.pool.allocate manager.options.capacity
    rw [show manager.resources.pool.allocate _ = _ from first] at still
    dsimp only at allocated
    rcases second : pool.allocate manager.options.capacity with ⟨result, last⟩
    rw [second] at allocated
    cases result with
    | error error => cases congrArg Prod.fst allocated
    | ok response =>
      have again := Region.Pool.allocate_granted still second
      obtain ⟨same, rfl⟩ := Prod.mk.inj allocated
      obtain rfl := Except.ok.inj same
      have next : pool.memory.next = manager.memory.next + 1 := by
        rw [granted.memory, Region.Memory.next_add]
        rfl
      refine ⟨?_, ?_, ?_, granted.countable, rfl⟩
      · exact again.kept _ _ granted.located
      · rw [← next]
        exact again.located
      · show last.memory.next = _
        rw [again.memory, Region.Memory.next_add, next]

theorem launch_ok (launched : manager.launch holding = (.ok address, later)) :
    ∃ session link request response resources,
      Session.Started manager.resources resources holding session link request response ∧
      address = session.address ∧ later.sessions = manager.sessions ++ [session.enter .serving] ∧
      later.pool = resources.pool := by
  unfold launch at launched
  dsimp only at launched
  rcases began : Session.start ⟨UInt64.ofNat (manager.launched + 1)⟩ holding manager.options
    manager.resources with ⟨failure, session, resources⟩
  rw [began] at launched
  cases failure with
  | some error => cases congrArg Prod.fst launched
  | none =>
    obtain ⟨link, request, response, started⟩ := Session.start_of_none began
    obtain ⟨same, rfl⟩ := Prod.mk.inj launched
    obtain rfl := Except.ok.inj same
    exact ⟨session, link, request, response, resources, started, rfl, rfl, rfl⟩

/-- What a spawn leaves behind the sessions there were: one more, on two new regions of one size with both
flags lowered. -/
structure Spawned (manager later : Manager) (address : Channel.Address) (session : Session)
    (link : Session.Link) : Prop where
  sessions : later.sessions = manager.sessions ++ [session]
  serving : session.state = .serving
  held : session.link = some link
  request : link.channel.request = ⟨⟨manager.memory.next, manager.options.capacity⟩, address.request⟩
  response : link.channel.response = ⟨⟨manager.memory.next + 1, manager.options.capacity⟩, address.response⟩
  locates_request : later.pool.locate address.request = .ok link.channel.request.toWindow
  locates_response : later.pool.locate address.response = .ok link.channel.response.toWindow
  next : later.memory.next = manager.memory.next + 2
  countable : manager.options.capacity < UInt64.size
  quiet : later.memory.flag link.channel.request.index = Wire.emptyFlag
  lowered : later.memory.flag link.channel.response.index = Wire.emptyFlag

theorem spawned_of_launch {between : Manager} (sound : manager.Sound)
    (allocated : manager.allocatePair = (.ok holding, between))
    (launched : between.launch holding = (.ok address, later)) :
    ∃ session link, manager.Spawned later address session link := by
  obtain ⟨asked, told, next, countable, kept⟩ := allocatePair_ok sound allocated
  obtain ⟨session, link, request, response, resources, started, rfl, sessions, pool⟩ := launch_ok launched
  obtain rfl := Except.ok.inj (asked.symm.trans started.locates_request)
  obtain rfl := Except.ok.inj (told.symm.trans started.locates_response)
  have memory : later.memory = (between.memory.setFlag manager.memory.next Wire.emptyFlag).setFlag
      (manager.memory.next + 1) Wire.emptyFlag := by
    show later.pool.memory = _
    rw [pool]
    exact started.memory
  have request_inside : manager.memory.next < between.memory.next := by
    rw [show between.memory.next = _ from next]
    omega
  have response_inside : manager.memory.next + 1 < between.memory.next := by
    rw [show between.memory.next = _ from next]
    exact Nat.lt_succ_self _
  refine ⟨session.enter .serving, link, ?_⟩
  constructor
  · rw [sessions, kept]
  · rfl
  · exact started.held
  · rw [started.asked, started.address.1]
  · rw [started.told, started.address.2]
  · rw [started.address.1, pool, started.located, started.asked]
    exact asked
  · rw [started.address.2, pool, started.located, started.told]
    exact told
  · rw [memory, Region.Memory.next_setFlag, Region.Memory.next_setFlag]
    exact next
  · exact countable
  · rw [started.asked, memory]
    show Region.Memory.flag _ manager.memory.next = _
    rw [Region.Memory.flag_setFlag_of_ne (by omega)]
    exact Region.Memory.flag_setFlag request_inside _
  · rw [started.told, memory]
    apply Region.Memory.flag_setFlag
    rw [Region.Memory.next_setFlag]
    exact response_inside

theorem spawned_of_spawn (sound : manager.Sound) (spawn : manager.spawn = (.ok address, spawned)) :
    ∃ session link, manager.Spawned spawned address session link := by
  unfold Manager.spawn at spawn
  cases installed : manager.schema with
  | none =>
    rw [installed] at spawn
    cases congrArg Prod.fst spawn
  | some schema =>
    rw [installed] at spawn
    dsimp only at spawn
    rcases allocated : manager.allocatePair with ⟨result, between⟩
    rw [allocated] at spawn
    cases result with
    | error error => cases congrArg Prod.fst spawn
    | ok holding => exact spawned_of_launch sound allocated spawn

theorem Reached.settle (reached : manager.Reached) : manager.settle.Reached := by
  unfold Manager.settle
  generalize manager.sessions.length + 2 = rounds
  induction rounds generalizing manager with
  | zero => exact reached
  | succ rounds ih =>
    unfold settleWithin
    split
    · exact ih reached.serveRound
    · exact reached

theorem Reached.call {request : Wire.Request} {result : Except Client.Error Wire.Reply} {ended : Client}
    (reached : manager.Reached) (called : manager.call client request = some (result, ended, later)) :
    later.Reached := by
  unfold Manager.call exchange at called
  obtain ⟨⟨answer, channel, last⟩, exchanged, same⟩ := Option.map_eq_some_iff.1 called
  obtain ⟨_, _, rfl⟩ := same
  have written := client.channel.next_submit manager.memory request.opcode request.chunks
  generalize client.channel.submit manager.memory request.opcode request.chunks = attempt at exchanged written
  obtain ⟨failure, memory⟩ := attempt
  cases failure with
  | some error =>
    obtain ⟨_, _, rfl⟩ := Option.some.inj exchanged
    exact reached.write written
  | none =>
    obtain ⟨⟨outcome, closed, memory⟩, finished, same⟩ := Option.map_eq_some_iff.1 exchanged
    obtain ⟨_, _, rfl⟩ := same
    exact (reached.write written).settle.write (Channel.ClientEnd.next_finish finished)

theorem Reached.connect (reached : manager.Reached) (address : Channel.Address) (options : Client.Options) :
    (manager.connect address options).2.Reached := by
  have first := reached.map address.request
  unfold Manager.connect Client.connect Client.openChannel
  generalize manager.pool.map address.request = attempt at first
  obtain ⟨result, mapped⟩ := attempt
  cases result with
  | error error => exact first
  | ok request =>
    have second := first.map address.response
    dsimp only at second ⊢
    rcases attempt : mapped.map address.response with ⟨result, pool⟩
    rw [show Manager.pool (manager.setPool mapped) = mapped from rfl, attempt] at second
    cases result with
    | error error => exact second
    | ok response => exact second

theorem linked_of_spawn (reached : manager.Reached) (spawn : manager.spawn = (.ok address, spawned))
    (connect : spawned.connect address options = (.ok client, connected))
    (rest : ∀ other ∈ manager.sessions, other.Idle connected.memory) :
    ∃ session link, connected.Linked client manager.sessions [] session link := by
  have sound := reached.sound
  have faultless := sound.spawn.resources.faultless
  rw [spawn] at faultless
  obtain ⟨session, link, made⟩ := spawned_of_spawn sound spawn
  unfold Manager.connect at connect
  rcases attempt : Client.connect spawned.pool address options with ⟨result, last⟩
  rw [attempt] at connect
  obtain ⟨rfl, rfl⟩ := Prod.mk.inj connect
  obtain ⟨request, response, requested, responded, request_eq, response_eq, ready, untouched⟩ :=
    Client.connect_ok attempt
  obtain rfl := Except.ok.inj (made.locates_request.symm.trans requested)
  obtain rfl := Except.ok.inj (made.locates_response.symm.trans responded)
  replace untouched : last.memory = spawned.memory := untouched
  have cells : last.memory.next = manager.memory.next + 2 := by
    rw [untouched]
    exact made.next
  have request_index : link.channel.request.index = manager.memory.next := by rw [made.request]
  have response_index : link.channel.response.index = manager.memory.next + 1 := by rw [made.response]
  have room : link.channel.request.room = manager.options.capacity - Region.headerLength := by
    rw [made.request]
    rfl
  refine ⟨session, link, ?_⟩
  exact {
    enrolled := made.sessions
    held := made.held
    serving := made.serving
    request := by rw [request_eq, made.request]
    response := by rw [response_eq, made.response]
    ready
    spans := by
      constructor
      · omega
      · show _ < last.memory.next
        omega
      · show _ < last.memory.next
        omega
    level := by
      rw [room, made.response]
      rfl
    countable := by
      rw [room]
      exact Nat.lt_of_le_of_lt (Nat.sub_le _ _) made.countable
    quiet := by
      show last.memory.flag _ = _
      rw [untouched]
      exact made.quiet
    lowered := by
      show last.memory.flag _ = _
      rw [untouched]
      exact made.lowered
    faultless
    rest := by
      intro other member
      rw [List.append_nil] at member
      refine ⟨rest other member, ?_⟩
      -- sessions that were there before poll cells that were there before
      intro own held
      have old := sound.inside other member own held
      show own.channel.request.index ≠ link.channel.request.index ∧
        own.channel.request.index ≠ link.channel.response.index
      omega }

end Manager

end SharedRecords
