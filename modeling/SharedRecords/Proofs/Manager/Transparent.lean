import SharedRecords.Proofs.Manager.Opening

/-!
The transport is transparent. Whatever a client and others have done before, a call of an open client
is one use of the store, with the same effect there and the outcome as its result.
-/

namespace SharedRecords

def Session.polls (session : Session) (index : Nat) : Bool :=
  session.link.any (·.channel.request.index == index)

namespace Manager

def counterpart? (manager : Manager) (client : Client) : Option Session :=
  manager.sessions.find? (·.polls client.channel.request.index)

/-- What others may do between two calls of a client. The store, the content of all regions and the
other sessions can be anything, as long as the client's session and the flags of its regions are left
as they are and no other session has anything to do, there or elsewhere. -/
structure Spares (manager later : Manager) (client : Client) : Prop where
  session : ∀ session, manager.counterpart? client = some session →
    ∃ front back, later.sessions = front ++ session :: back ∧
      ∀ other ∈ front ++ back, other.Idle later.memory ∧
        other.KeepsFrom client.channel.request.toWindow client.channel.response.toWindow
  request_flag : later.memory.flag client.channel.request.index =
    manager.memory.flag client.channel.request.index
  response_flag : later.memory.flag client.channel.response.index =
    manager.memory.flag client.channel.response.index
  cells : manager.memory.next ≤ later.memory.next
  faults : later.resources.backend.faults = manager.resources.backend.faults

/-- Calls of one client, and whatever others do between them. -/
inductive Rounds (client : Client) (start : Manager) : Manager → Prop where
  | start : Rounds client start start
  | call {manager later : Manager} {request : Wire.Request} {result : Except Client.Error Wire.Reply}
      (rounds : Rounds client start manager) (other : request ≠ .close)
      (called : manager.call client request = some (result, client, later)) : Rounds client start later
  | meanwhile {manager later : Manager} (rounds : Rounds client start manager)
      (spares : manager.Spares later client) : Rounds client start later

/-- A call that comes to what the store says to its request. -/
structure Transparent (manager : Manager) (client : Client) (request : Wire.Request) : Prop where
  opened : client.isOpen = true
  /-- A request without room is reported, and neither a session nor the store gets to see it. -/
  overflow : client.channel.requestCapacity < request.chunks.size →
    ∃ needed remaining memory,
      manager.call client request =
        some (.error (.channel (.wire (.bufferOverflow needed remaining))), client, manager.setMemory memory) ∧
      (manager.setMemory memory).settle = manager.setMemory memory
  /-- Any other request does to the store and to the context what it does there directly, and its
  outcome is reported; the client stays open and its session serves on. -/
  carried : request.chunks.size ≤ client.channel.requestCapacity →
    ∃ session link, manager.counterpart? client = some session ∧ session.link = some link ∧
      ∃ result later answered,
        manager.call client request = some (result, client, later) ∧
        Client.Reports client.channel.response.room
          (manager.resources.backend.store.handle link.context request).1 result ∧
        later.resources.backend = { manager.resources.backend with
          store := (manager.resources.backend.store.handle link.context request).2.2 } ∧
        later.counterpart? client = some answered ∧
        answered.link = some { link with
          context := (manager.resources.backend.store.handle link.context request).2.1 } ∧
        answered.state = .serving

theorem counterpart_of_enrolled {manager : Manager} {client : Client} {front back : List Session}
    {session : Session} {link : Session.Link} (enrolled : manager.sessions = front ++ session :: back)
    (held : session.link = some link) (request : client.channel.request = link.channel.request)
    (keeps : ∀ other ∈ front, other.KeepsFrom link.channel.request.toWindow link.channel.response.toWindow) :
    manager.counterpart? client = some session := by
  have polls : session.polls client.channel.request.index = true := by
    unfold Session.polls
    rw [held, request]
    exact beq_self_eq_true _
  have found : (session :: back).find? (·.polls client.channel.request.index) = some session :=
    List.find?_cons_of_pos polls
  unfold counterpart?
  rw [enrolled, List.find?_append, found]
  suffices ahead : front.find? (·.polls client.channel.request.index) = none by
    rw [ahead]
    rfl
  rw [List.find?_eq_none]
  intro other member
  unfold Session.polls
  cases own : other.link with
  | none => nofun
  | some another =>
    obtain ⟨apart, _⟩ := keeps other member another own
    rw [request]
    intro same
    exact apart (beq_iff_eq.1 same)

namespace Linked

variable {manager later : Manager} {client : Client} {front back : List Session} {session : Session}
  {link : Session.Link} {request : Wire.Request}

theorem counterpart (linked : manager.Linked client front back session link) :
    manager.counterpart? client = some session :=
  counterpart_of_enrolled linked.enrolled linked.held linked.request fun other member =>
    (linked.rest other (List.mem_append_left _ member)).2

theorem spared (linked : manager.Linked client front back session link)
    (spares : manager.Spares later client) :
    ∃ front back, later.Linked client front back session link := by
  obtain ⟨ahead, behind, enrolled, rest⟩ := spares.session session linked.counterpart
  have request_flag := spares.request_flag
  have response_flag := spares.response_flag
  rw [linked.request] at request_flag
  rw [linked.response] at response_flag
  refine ⟨ahead, behind, { linked with
    enrolled
    spans := ⟨linked.spans.apart, ?_, ?_⟩
    quiet := request_flag.trans linked.quiet
    lowered := response_flag.trans linked.lowered
    faultless := ?_
    rest := ?_ }⟩
  · exact Nat.lt_of_lt_of_le linked.spans.request_inside spares.cells
  · exact Nat.lt_of_lt_of_le linked.spans.response_inside spares.cells
  · rw [spares.faults]
    exact linked.faultless
  · rw [← linked.request, ← linked.response]
    exact rest

theorem called {result : Except Client.Error Wire.Reply}
    (linked : manager.Linked client front back session link) (other : request ≠ .close)
    (done : manager.call client request = some (result, client, later)) :
    ∃ answered link, later.Linked client front back answered link := by
  by_cases fits : request.chunks.size ≤ client.channel.requestCapacity
  · obtain ⟨_, _, answered, carried, _, _, still⟩ := linked.call_fits other fits
    rw [carried] at done
    obtain ⟨_, _, rfl⟩ := Option.some.inj done
    exact ⟨answered, _, still⟩
  · obtain ⟨_, _, memory, refused, _, still⟩ := linked.call_overflows (Nat.lt_of_not_le fits)
    rw [refused] at done
    obtain ⟨_, _, rfl⟩ := Option.some.inj done
    exact ⟨session, link, still⟩

theorem rounds (linked : manager.Linked client front back session link)
    (rounds : Rounds client manager later) :
    ∃ front back session link, later.Linked client front back session link := by
  induction rounds with
  | start => exact ⟨front, back, session, link, linked⟩
  | call _ other done ih =>
    obtain ⟨front, back, session, link, still⟩ := ih
    obtain ⟨answered, later, linked⟩ := still.called other done
    exact ⟨front, back, answered, later, linked⟩
  | meanwhile _ spares ih =>
    obtain ⟨front, back, session, link, still⟩ := ih
    obtain ⟨ahead, behind, linked⟩ := still.spared spares
    exact ⟨ahead, behind, session, link, linked⟩

theorem transparent (linked : manager.Linked client front back session link) (other : request ≠ .close) :
    manager.Transparent client request where
  opened := by
    unfold Client.isOpen Channel.ClientEnd.isOpen
    rw [linked.ready]
    rfl
  overflow := by
    intro large
    obtain ⟨needed, remaining, memory, refused, quiet, _⟩ := linked.call_overflows large
    exact ⟨needed, remaining, memory, refused, quiet⟩
  carried := by
    intro fits
    obtain ⟨result, later, answered, carried, reports, backend, still⟩ := linked.call_fits other fits
    refine ⟨session, link, linked.counterpart, linked.held, result, later, answered, carried, ?_, backend,
      still.counterpart, still.held, still.serving⟩
    rw [linked.response]
    exact reports

end Linked

/-- Every call on a record, by the open client of a spawned session. -/
theorem call_transparent {manager spawned connected later : Manager} {address : Channel.Address}
    {options : Client.Options} {client : Client} {request : Wire.Request} (reached : manager.Reached)
    (spawn : manager.spawn = (.ok address, spawned))
    (connect : spawned.connect address options = (.ok client, connected))
    (rest : ∀ other ∈ manager.sessions, other.Idle connected.memory)
    (rounds : Rounds client connected later) (other : request ≠ .close) :
    later.Transparent client request := by
  obtain ⟨session, link, linked⟩ := linked_of_spawn reached spawn connect rest
  obtain ⟨front, back, session, link, still⟩ := linked.rounds rounds
  exact still.transparent other

def oneTable : Manager :=
  ((new (.ofStore .empty) (.anonymous .empty none) ⟨64, .spin, 0, "session"⟩).installSchema
    ⟨[⟨"people", ["name"]⟩], ""⟩).2

theorem oneTable_call_transparent : ∃ address client connected,
    oneTable.spawn.1 = .ok address ∧ oneTable.spawn.2.connect address {} = (.ok client, connected) ∧
      connected.Transparent client (.read "people" "ada" []) := by
  have bare : Region.Pool.Bare .empty := nofun
  have reached : oneTable.Reached := .installSchema (.new .empty (Region.Pool.anonymous_sound bare none) _) _
  have rest : ∀ memory, ∀ other ∈ oneTable.sessions, other.Idle memory :=
    fun _ _ member => absurd member List.not_mem_nil
  let address : Channel.Address := ⟨⟨1⟩, .anonymous 1, .anonymous 2⟩
  have spawn : oneTable.spawn = (.ok address, oneTable.spawn.2) := rfl
  refine ⟨address, _, _, rfl, rfl, ?_⟩
  exact call_transparent reached spawn rfl (rest _) .start nofun

end Manager

end SharedRecords
