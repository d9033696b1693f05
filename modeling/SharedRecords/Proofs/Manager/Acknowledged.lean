import SharedRecords.Proofs.Manager.Joining
import SharedRecords.Proofs.Manager.Transparent

/-!
Writes are acknowledged exactly when they took effect, over regions of any sizes. What a write answers has
no bytes, so it is never replaced by a failure, and an answer that is replaced belongs to a write that the
store has refused.
-/

namespace SharedRecords

namespace Wire

inductive Request.Writes : Request → Prop where
  | insert (table key : String) (values : Record) : Writes (.insert table key values)
  | update (table key : String) (values : Record) : Writes (.update table key values)
  | delete (table key : String) : Writes (.delete table key)

end Wire

namespace Store

variable {store later : Store} {request : Wire.Request} {reply : Wire.Reply}

theorem reply_of_writes (writes : request.Writes) (answered : store.answer request = (.ok reply, later)) :
    reply = .empty := by
  cases writes with
  | insert => exact reply_of_settle answered
  | update => exact reply_of_settle answered
  | delete => exact reply_of_settle answered

end Store

namespace Manager

inductive Makes (manager : Manager) (address : Channel.Address) (made : Manager) : Prop where
  | spawn (spawn : manager.spawn = (.ok address, made))
  | spawnWith {asking telling : Region.Handle} {request response : Region.Window}
      (spawn : manager.spawnWith asking telling = (.ok address, made))
      (asks : manager.pool.locate asking = .ok request) (tells : manager.pool.locate telling = .ok response)
      (apart : request.index ≠ response.index) (request_countable : request.capacity < UInt64.size)
      (response_countable : response.capacity < UInt64.size)
      (own : ∀ other ∈ manager.sessions, other.KeepsFrom request response)

/-- What a client has come to: it calls, and may give up waiting. Others keep to themselves as long as it
is open, and do anything once it is shut. -/
inductive Course (start : Manager) (first : Client) : Manager → Client → Prop where
  | start : Course start first start first
  | call {manager later : Manager} {client ended : Client} {request : Wire.Request}
      {result : Except Client.Error Wire.Reply} (course : Course start first manager client)
      (called : manager.call client request = some (result, ended, later)) : Course start first later ended
  | timeOut {manager : Manager} {client : Client} {request : Wire.Request} {memory last : Region.Memory}
      {channel : Channel.ClientEnd} {waited : Duration} (course : Course start first manager client)
      (submitted : client.channel.submit manager.memory request.opcode request.chunks = (none, memory))
      (expired : client.channel.finish memory request.opcode (Client.responseReader request.opcode) =
        some (.error (.timeout waited), channel, last)) :
      Course start first (manager.setMemory last) { client with channel }
  | meanwhile {manager later : Manager} {client : Client} (course : Course start first manager client)
      (spares : manager.Spares later client) : Course start first later client
  | afterwards {manager : Manager} {client : Client} (course : Course start first manager client)
      (shut : client.channel.state ≠ .ready) (later : Manager) : Course start first later client

/-- The call comes to an end, and what it says of its write is what became of the tables. -/
def Acknowledges (manager : Manager) (client : Client) (request : Wire.Request) : Prop :=
  ∃ result ended later, manager.call client request = some (result, ended, later) ∧
    match result with
    | .ok reply => reply = .empty ∧ ∃ store, manager.resources.backend.store.answer request = (.ok .empty, store) ∧
        later.resources.backend.store.tables = store.tables
    | .error _ => later.resources.backend.store.tables = manager.resources.backend.store.tables

/-- An open client and its session between two calls, over regions of any sizes and with every other
session at rest. -/
structure Paired (manager : Manager) (client : Client) (front back : List Session) (session : Session)
    (link : Session.Link) : Prop where
  enrolled : manager.sessions = front ++ session :: back
  held : session.link = some link
  joined : Session.Joined client link manager.memory
  quiet : manager.memory.flag link.channel.request.index = Wire.emptyFlag
  lowered : manager.memory.flag link.channel.response.index = Wire.emptyFlag
  faultless : ∀ entry, manager.resources.backend.faults entry = none
  rest : ∀ other ∈ front ++ back, other.Idle manager.memory ∧
    other.KeepsFrom link.channel.request.toWindow link.channel.response.toWindow

variable {manager later : Manager} {client ended : Client} {front back : List Session} {session : Session}
  {link : Session.Link} {request : Wire.Request} {written : Region.Memory}
  {result : Except Client.Error Wire.Reply}

theorem call_shut (shut : client.channel.state ≠ .ready) (manager : Manager) (request : Wire.Request) :
    ∃ error, manager.call client request = some (.error (.channel error), client, manager) := by
  unfold call exchange Channel.ClientEnd.submit Channel.ClientEnd.refusal?
  cases state : client.channel.state with
  | ready => exact absurd state shut
  | closed => exact ⟨.closed, rfl⟩
  | poisoned => exact ⟨.poisoned, rfl⟩

theorem shut_of_close (called : manager.call client .close = some (result, ended, later)) :
    ended.channel.state ≠ .ready := by
  by_cases ready : client.channel.state = .ready
  · have whole := (client.channel.request.write_failure_eq_none_iff manager.memory []).2 (Nat.zero_le _)
    unfold call exchange at called
    rw [Channel.ClientEnd.submit_of_ready ready] at called
    rcases attempt : client.channel.request.write manager.memory [] with ⟨failure, written⟩
    rw [attempt] at whole
    subst whole
    rw [show Wire.Request.chunks .close = [] from rfl, attempt] at called
    obtain ⟨_, exchanged, same⟩ := Option.map_eq_some_iff.1 called
    obtain ⟨⟨_, _, _⟩, finished, rfl⟩ := Option.map_eq_some_iff.1 exchanged
    obtain ⟨_, rfl, _⟩ := same
    exact Channel.ClientEnd.finish_close finished
  · obtain ⟨error, refused⟩ := call_shut ready manager .close
    obtain ⟨_, rfl, _⟩ := Option.some.inj (refused.symm.trans called)
    exact ready

namespace Paired

theorem of_flags (paired : manager.Paired client front back session link)
    (next : written.next = manager.memory.next) (flags : ∀ index, written.flag index = manager.memory.flag index) :
    (manager.setMemory written).Paired client front back session link :=
  { paired with
    joined := paired.joined.of_next (Nat.le_of_eq next.symm)
    quiet := (flags _).trans paired.quiet
    lowered := (flags _).trans paired.lowered
    rest := by
      intro other member
      obtain ⟨idle, keeps⟩ := paired.rest other member
      exact ⟨idle.of_flags keeps fun index _ _ => flags index, keeps⟩ }

theorem call_overflows (paired : manager.Paired client front back session link)
    (large : client.channel.requestCapacity < request.chunks.size) :
    ∃ error memory, manager.call client request = some (.error (.channel error), client, manager.setMemory memory) ∧
      (manager.setMemory memory).Paired client front back session link := by
  obtain ⟨needed, remaining, memory, submitted, next, flags⟩ :=
    Channel.ClientEnd.submit_overflows paired.joined.ready manager.memory large request.opcode
  refine ⟨.wire (.bufferOverflow needed remaining), memory, ?_, paired.of_flags next flags⟩
  unfold call exchange
  rw [submitted]
  rfl

theorem rest_of_published {told : Wire.Status} {said : Wire.Message} {memory : Region.Memory}
    (paired : manager.Paired client front back session link)
    (raised : client.channel.Raised manager.memory written request.opcode request.chunks)
    (published : link.channel.Published written memory told said) :
    ∀ other ∈ front ++ back, other.Idle written ∧ other.Idle memory := by
  intro other member
  obtain ⟨idle, keeps⟩ := paired.rest other member
  have before : other.Idle written := by
    apply idle.of_flags keeps
    intro index request _
    apply raised.others
    rw [paired.joined.request]
    exact request
  exact ⟨before, before.of_flags keeps published.others⟩

theorem settle_raised {turn : Session × Session.Resources} {told : Wire.Status} {said : Wire.Message}
    (paired : manager.Paired client front back session link)
    (raised : client.channel.Raised manager.memory written request.opcode request.chunks)
    (served : session.serve .zero (manager.setMemory written).resources = turn)
    (published : link.channel.Published written turn.2.memory told said) :
    (manager.setMemory written).settle =
      { manager with sessions := front ++ turn.1 :: back, resources := turn.2 } := by
  subst served
  have rest := paired.rest_of_published raised published
  have orderly := session.serve_orderly .zero (manager.setMemory written).resources
  have enrolled : (manager.setMemory written).sessions = front ++ session :: back := paired.enrolled
  rw [settle_single enrolled]
  · rfl
  · intro none_pending
    have idle := Session.pending?_eq_none_iff.1 none_pending link paired.held
    change written.flag link.channel.request.index = Wire.emptyFlag at idle
    rw [← paired.joined.request, raised.raised] at idle
    exact request.opcode.byte_ne_empty idle
  · exact fun other member => (rest other member).1
  · exact fun other member => (rest other member).2
  · intro own held
    obtain ⟨old, before, channel⟩ := orderly.channel own held
    obtain rfl := Option.some.inj (paired.held.symm.trans before)
    rw [channel]
    exact published.lowered

theorem call_raised {turn : Session × Session.Resources} {told : Wire.Status} {said : Wire.Message}
    {answer : Except Channel.Error (Except Client.Error Wire.Reply)} {channel : Channel.ClientEnd}
    (paired : manager.Paired client front back session link)
    (submitted : client.channel.submit manager.memory request.opcode request.chunks = (none, written))
    (raised : client.channel.Raised manager.memory written request.opcode request.chunks)
    (served : session.serve .zero (manager.setMemory written).resources = turn)
    (published : link.channel.Published written turn.2.memory told said)
    (taken : client.channel.interpret request.opcode told.byte (link.channel.response.payload turn.2.memory)
      (Client.responseReader request.opcode) = (answer, channel)) :
    manager.call client request = some (Client.settle answer, { client with channel },
      { manager with
        sessions := front ++ turn.1 :: back
        resources := turn.2.setMemory (turn.2.memory.setFlag link.channel.response.index Wire.emptyFlag) }) := by
  have told_flag : turn.2.memory.flag client.channel.response.index = told.byte := by
    rw [paired.joined.response]
    exact published.raised
  have finished := Channel.ClientEnd.finish_raised told_flag request.opcode
    (Client.responseReader request.opcode)
  rw [paired.joined.response, taken] at finished
  unfold call exchange
  rw [submitted]
  dsimp only
  rw [paired.settle_raised raised served published, show Manager.memory _ = turn.2.memory from rfl, finished]
  rfl

theorem answered {shared : Session.Resources} {context : Store.Context} {told : Wire.Status} {said : Wire.Message}
    {memory : Region.Memory} (paired : manager.Paired client front back session link)
    (raised : client.channel.Raised manager.memory written request.opcode request.chunks)
    (published : link.channel.Published written memory told said)
    (taken : shared.memory = memory.setFlag link.channel.response.index Wire.emptyFlag)
    (faults : shared.backend.faults = manager.resources.backend.faults) :
    Paired { manager with sessions := front ++ session.answered link context told :: back, resources := shared }
      client front back (session.answered link context told) { link with context } := by
  have next : shared.memory.next = manager.memory.next := by
    rw [taken, Region.Memory.next_setFlag, published.next, raised.next]
  have inside : link.channel.response.index < memory.next := by
    rw [published.next, raised.next]
    exact paired.joined.spans.response_inside
  have flags : ∀ index, index ≠ link.channel.request.index → index ≠ link.channel.response.index →
      shared.memory.flag index = manager.memory.flag index := by
    intro index request response
    rw [taken, Region.Memory.flag_setFlag_of_ne response.symm, published.others index request response]
    apply raised.others
    rw [paired.joined.request]
    exact request
  exact {
    enrolled := rfl
    held := rfl
    joined := { paired.joined.of_next (Nat.le_of_eq next.symm) with }
    quiet := by
      show shared.memory.flag link.channel.request.index = _
      rw [taken, Region.Memory.flag_setFlag_of_ne paired.joined.spans.apart.symm]
      exact published.lowered
    lowered := by
      show shared.memory.flag link.channel.response.index = _
      rw [taken]
      exact Region.Memory.flag_setFlag inside _
    faultless := by
      intro entry
      show shared.backend.faults entry = none
      rw [faults]
      exact paired.faultless entry
    rest := by
      intro other member
      obtain ⟨idle, keeps⟩ := paired.rest other member
      exact ⟨idle.of_flags keeps flags, keeps⟩ }

/-- A call whose request fits comes to what the store says, or to an end without an answer. The tables are
those that the request leaves in either case. -/
theorem call_fits (paired : manager.Paired client front back session link) (other : request ≠ .close)
    (fits : request.chunks.size ≤ client.channel.requestCapacity) :
    ∃ result ended later, manager.call client request = some (result, ended, later) ∧
      later.resources.backend.store.tables = (manager.resources.backend.store.answer request).2.tables ∧
      ((Client.Reports link.channel.replyCapacity (manager.resources.backend.store.answer request).1 result ∧
          ended = client ∧ ∃ answered link, later.Paired client front back answered link) ∨
        (link.channel.replyCapacity < (manager.resources.backend.store.answer request).1.chunks.size ∧
          result = .error (.channel .aborted) ∧ ended.channel.state ≠ .ready)) := by
  obtain ⟨written, submitted, raised⟩ := Channel.ClientEnd.submit_fits paired.joined.ready
    paired.joined.request_inside fits request.opcode
  have spans := paired.joined.spans.of_next raised.next
  have handled : manager.resources.backend.handle link.context request = _ :=
    Store.Backend.handle_of_no_fault (paired.faultless (.serve request.opcode))
  rcases answer : manager.resources.backend.store.answer request with ⟨outcome, store⟩
  rw [answer] at handled
  have responds := Session.serve_responds (manager.setMemory written).resources paired.held spans
    (paired.joined.asks fits raised) other handled .zero
  generalize served : session.serve .zero (manager.setMemory written).resources = turn at responds
  cases responds with
  | @answered told said memory published spoken =>
    obtain ⟨rest, payload⟩ := published.payload
    obtain ⟨known, result, read, reports⟩ :=
      Client.reads_report answer paired.joined.response_countable spoken rest
    rw [← payload] at read
    have taken : client.channel.interpret request.opcode told.byte _ _ = (.ok result, client.channel) :=
      Channel.ClientEnd.interpret_status known (Wire.Request.opcode_ne_close other) read
    refine ⟨result, client, _, paired.call_raised submitted raised served published taken, rfl, .inl ?_⟩
    exact ⟨reports, rfl, _, _, paired.answered raised published rfl rfl⟩
  | @gaveUp memory tight large next flags =>
    have ends := paired.call_raised submitted raised served
      (session.counted.abort_published spans _ next flags) (client.channel.interpret_aborted _ _ _)
    refine ⟨_, _, _, ends, ?_, .inr ?_⟩
    · exact Session.abort_tables _ _ _ _
    · exact ⟨large, rfl, nofun⟩

theorem acknowledges (paired : manager.Paired client front back session link) (writes : request.Writes) :
    manager.Acknowledges client request := by
  have other : request ≠ .close := by
    cases writes with
    | insert | update | delete => nofun
  by_cases fits : request.chunks.size ≤ client.channel.requestCapacity
  · obtain ⟨result, ended, later, carried, tables, told⟩ := paired.call_fits other fits
    refine ⟨result, ended, later, carried, ?_⟩
    rcases answer : manager.resources.backend.store.answer request with ⟨outcome, store⟩
    rw [answer] at tables told
    dsimp only at tables told
    cases outcome with
    | ok reply =>
      obtain rfl := Store.reply_of_writes writes answer
      -- an applied write has nothing to say that would need room
      have room : (Store.Outcome.chunks (.ok .empty)).size ≤ link.channel.replyCapacity := Nat.zero_le _
      rcases told with ⟨reports, _⟩ | ⟨large, _⟩
      · unfold Client.Reports at reports
        rw [if_pos room] at reports
        subst reports
        exact ⟨rfl, store, rfl, tables⟩
      · exact absurd room (Nat.not_le.2 large)
    | error error =>
      rw [Store.answer_of_error answer] at tables
      rcases told with ⟨reports, _⟩ | ⟨_, aborted, _⟩
      · unfold Client.Reports at reports
        split at reports
        · subst reports
          cases error with
          | notFound | conflict | unknownTable | unknownColumn | tableExists | failed => exact tables
        · obtain ⟨reason, rfl⟩ := reports
          exact tables
      · subst aborted
        exact tables
  · obtain ⟨error, memory, refused, _⟩ := paired.call_overflows (Nat.lt_of_not_le fits)
    exact ⟨_, client, _, refused, rfl⟩

theorem spared (paired : manager.Paired client front back session link) (spares : manager.Spares later client) :
    ∃ front back, later.Paired client front back session link := by
  have counterpart := counterpart_of_enrolled paired.enrolled paired.held paired.joined.request
    fun other member => (paired.rest other (List.mem_append_left _ member)).2
  obtain ⟨ahead, behind, enrolled, rest⟩ := spares.session session counterpart
  have request_flag := spares.request_flag
  have response_flag := spares.response_flag
  rw [paired.joined.request] at request_flag
  rw [paired.joined.response] at response_flag
  refine ⟨ahead, behind, { paired with
    enrolled
    joined := paired.joined.of_next spares.cells
    quiet := request_flag.trans paired.quiet
    lowered := response_flag.trans paired.lowered
    faultless := ?_
    rest := ?_ }⟩
  · rw [spares.faults]
    exact paired.faultless
  · rw [← paired.joined.request, ← paired.joined.response]
    exact rest

theorem called (paired : manager.Paired client front back session link)
    (done : manager.call client request = some (result, ended, later)) :
    ended.channel.state ≠ .ready ∨ ∃ answered link, later.Paired ended front back answered link := by
  by_cases closing : request = .close
  · subst closing
    exact .inl (shut_of_close done)
  · by_cases fits : request.chunks.size ≤ client.channel.requestCapacity
    · obtain ⟨_, _, _, carried, _, told⟩ := paired.call_fits closing fits
      rw [carried] at done
      obtain ⟨_, rfl, rfl⟩ := Option.some.inj done
      rcases told with ⟨_, rfl, still⟩ | ⟨_, _, shut⟩
      · exact .inr still
      · exact .inl shut
    · obtain ⟨_, _, refused, still⟩ := paired.call_overflows (Nat.lt_of_not_le fits)
      rw [refused] at done
      obtain ⟨_, rfl, rfl⟩ := Option.some.inj done
      exact .inr ⟨session, link, still⟩

end Paired

theorem Course.standing {start : Manager} {first : Client} (course : Course start first manager client)
    (paired : start.Paired first front back session link) :
    client.channel.state ≠ .ready ∨ ∃ front back session link, manager.Paired client front back session link := by
  induction course with
  | start => exact .inr ⟨front, back, session, link, paired⟩
  | @call manager later client ended request result _ called ih =>
    rcases ih with shut | ⟨front, back, session, link, still⟩
    · obtain ⟨error, refused⟩ := call_shut shut manager request
      obtain ⟨_, rfl, _⟩ := Option.some.inj (refused.symm.trans called)
      exact .inl shut
    · rcases still.called called with shut | ⟨answered, later, next⟩
      · exact .inl shut
      · exact .inr ⟨front, back, answered, later, next⟩
  | timeOut _ _ expired => exact .inl (Channel.ClientEnd.finish_error expired)
  | meanwhile _ spares ih =>
    rcases ih with shut | ⟨front, back, session, link, still⟩
    · exact .inl shut
    · obtain ⟨ahead, behind, next⟩ := still.spared spares
      exact .inr ⟨ahead, behind, session, link, next⟩
  | afterwards _ shut => exact .inl shut

variable {spawned connected : Manager} {address : Channel.Address} {options : Client.Options}
  {asked told : Region.Window}

theorem Opened.paired (opened : manager.Opened connected client session link asked told) (reached : connected.Reached)
    (rest : ∀ other ∈ manager.sessions, other.Idle connected.memory)
    (own : ∀ other ∈ manager.sessions, other.KeepsFrom asked told) :
    connected.Paired client manager.sessions [] session link where
  enrolled := opened.sessions
  held := opened.held
  joined := opened.joined
  quiet := opened.quiet
  lowered := opened.lowered
  faultless := reached.sound.resources.faultless
  rest := by
    intro other member
    rw [List.append_nil] at member
    rw [opened.request, opened.response]
    exact ⟨rest other member, own other member⟩

theorem Makes.paired (makes : manager.Makes address spawned) (reached : manager.Reached)
    (connect : spawned.connect address options = (.ok client, connected))
    (rest : ∀ other ∈ manager.sessions, other.Idle connected.memory) :
    ∃ session link, connected.Paired client manager.sessions [] session link := by
  have sound := reached.sound
  cases makes with
  | spawn spawn =>
    have later := reached.spawn.connect
    rw [spawn] at later
    have last := later address options
    rw [connect] at last
    obtain ⟨session, link, opened⟩ := opened_of_spawn sound spawn connect
    refine ⟨session, link, opened.paired last rest ?_⟩
    -- sessions that were there before poll cells that were there before
    intro other member own held
    have old := sound.inside other member own held
    show own.channel.request.index ≠ manager.memory.next ∧ own.channel.request.index ≠ manager.memory.next + 1
    omega
  | @spawnWith asking telling _ _ spawn asks tells apart request_countable response_countable own =>
    have later := (reached.spawnWith asking telling).connect
    rw [spawn] at later
    have last := later address options
    rw [connect] at last
    obtain ⟨session, link, opened⟩ :=
      opened_of_spawnWith sound spawn connect asks tells apart request_countable response_countable
    exact ⟨session, link, opened.paired last rest own⟩

/-- Every write of every client of a session, wherever its calls have brought it. -/
theorem writes_acknowledged (reached : manager.Reached) (makes : manager.Makes address spawned)
    (connect : spawned.connect address options = (.ok client, connected))
    (rest : ∀ other ∈ manager.sessions, other.Idle connected.memory)
    (course : Course connected client later ended) (writes : request.Writes) :
    later.Acknowledges ended request := by
  obtain ⟨session, link, paired⟩ := makes.paired reached connect rest
  rcases course.standing paired with shut | ⟨_, _, _, _, still⟩
  · obtain ⟨error, refused⟩ := call_shut shut later request
    exact ⟨_, ended, later, refused, rfl⟩
  · exact still.acknowledges writes

/-- Two regions of a client, and no room in the one for replies. -/
def twoRegions : Manager :=
  let first := oneTable.setPool (oneTable.pool.allocate 64).2
  first.setPool (first.pool.allocate 2).2

theorem twoRegions_writes_acknowledged : ∃ address client connected,
    (twoRegions.spawnWith (.anonymous 1) (.anonymous 2)).1 = .ok address ∧
      (twoRegions.spawnWith (.anonymous 1) (.anonymous 2)).2.connect address {} = (.ok client, connected) ∧
      connected.Acknowledges client (.insert "people" "ada" [⟨"age", "36"⟩]) := by
  have bare : Region.Pool.Bare .empty := nofun
  have reached : twoRegions.Reached :=
    .allocate (.allocate (.installSchema (.new .empty (Region.Pool.anonymous_sound bare none) _) _) 64) 2
  have none_there {property : Session → Prop} : ∀ other ∈ twoRegions.sessions, property other :=
    fun _ member => absurd member List.not_mem_nil
  let address : Channel.Address := ⟨⟨1⟩, .anonymous 1, .anonymous 2⟩
  have asks : twoRegions.pool.locate (.anonymous 1) = .ok ⟨0, 64⟩ := rfl
  have tells : twoRegions.pool.locate (.anonymous 2) = .ok ⟨1, 2⟩ := rfl
  have makes : twoRegions.Makes address (twoRegions.spawnWith (.anonymous 1) (.anonymous 2)).2 :=
    .spawnWith rfl asks tells (by decide) (by decide) (by decide) none_there
  refine ⟨address, _, _, rfl, rfl, ?_⟩
  exact writes_acknowledged reached makes rfl none_there .start (.insert _ _ _)

end Manager

end SharedRecords
