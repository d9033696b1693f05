import SharedRecords.Manager.Exchange
import SharedRecords.Proofs.Channel.Submission
import SharedRecords.Proofs.Client.Response
import SharedRecords.Proofs.Manager.Serving

/-!
Calls through shared memory. Between an open client and its session a call does to the store what the
request does, and comes back as what the outcome means, whatever the regions held before.
-/

namespace SharedRecords

namespace Session

def KeepsFrom (session : Session) (request response : Region.Window) : Prop :=
  ∀ link, session.link = some link →
    link.channel.request.index ≠ request.index ∧ link.channel.request.index ≠ response.index

theorem Idle.of_flags {session : Session} {request response : Region.Window} {memory later : Region.Memory}
    (idle : session.Idle memory) (keeps : session.KeepsFrom request response)
    (flags : ∀ index, index ≠ request.index → index ≠ response.index →
      later.flag index = memory.flag index) : session.Idle later := by
  intro link held
  obtain ⟨apart, aside⟩ := keeps link held
  rw [flags _ apart aside]
  exact idle link held

end Session

namespace Wire.Request

theorem chunks_roomy {request : Request} (other : request ≠ .close) : wordLength ≤ request.chunks.size := by
  cases request with
  | close => exact absurd rfl other
  | read | scan | insert | update | delete =>
    simp only [chunks, Message.size, Chunk.size]
    omega

end Wire.Request

namespace Client

/-- The result a call reports when the session's reply has so much room: what the outcome means, or
some failure if the reply does not fit. -/
def Reports (room : Nat) (outcome : Store.Outcome) (result : Except Error Wire.Reply) : Prop :=
  if outcome.chunks.size ≤ room then result = meaning outcome
  else ∃ reason, result = .error (.failed reason)

theorem reads_report {store later : Store} {request : Wire.Request} {outcome : Store.Outcome} {room : Nat}
    {told : Wire.Status} {said : Wire.Message} (answered : store.answer request = (outcome, later))
    (countable : room < UInt64.size) (spoken : Session.Says room outcome.status outcome.chunks told said)
    (rest : Wire.Payload) : told ≠ .aborted ∧ ∃ result,
      (responseReader request.opcode told).run (said.bytes ++ rest) = .ok result ∧
        Reports room outcome result := by
  unfold Reports
  cases spoken with
  | answer fits =>
    refine ⟨outcome.status_ne_aborted, meaning outcome, ?_, ?_⟩
    · exact responseReader_outcome answered (Nat.lt_of_le_of_lt fits countable) rest
    · rw [if_pos fits]
  | excuse large reason fits =>
    refine ⟨nofun, .error (.failed reason), ?_, ?_⟩
    · exact responseReader_failed (Nat.lt_of_le_of_lt fits countable) request.opcode rest
    · rw [if_neg (Nat.not_le.2 large)]
      exact ⟨reason, rfl⟩

end Client

namespace Manager

/-- An open client and the session that serves it, between two calls and with every other session at
rest. What the regions hold behind their flags is left open, and so is the store. -/
structure Linked (manager : Manager) (client : Client) (front back : List Session) (session : Session)
    (link : Session.Link) : Prop where
  enrolled : manager.sessions = front ++ session :: back
  held : session.link = some link
  serving : session.state = .serving
  request : client.channel.request = link.channel.request
  response : client.channel.response = link.channel.response
  ready : client.channel.state = .ready
  spans : link.channel.Spans manager.memory
  level : link.channel.request.room = link.channel.response.room
  countable : link.channel.request.room < UInt64.size
  quiet : manager.memory.flag link.channel.request.index = Wire.emptyFlag
  lowered : manager.memory.flag link.channel.response.index = Wire.emptyFlag
  faultless : ∀ entry, manager.resources.backend.faults entry = none
  rest : ∀ other ∈ front ++ back, other.Idle manager.memory ∧
    other.KeepsFrom link.channel.request.toWindow link.channel.response.toWindow

namespace Linked

variable {manager : Manager} {client : Client} {front back : List Session} {session : Session}
  {link : Session.Link} {request : Wire.Request}

theorem idle (linked : manager.Linked client front back session link) :
    ∀ other ∈ manager.sessions, other.Idle manager.memory := by
  intro other member
  rw [linked.enrolled, List.mem_append, List.mem_cons] at member
  rcases member with ahead | same | behind
  · exact (linked.rest other (List.mem_append_left _ ahead)).1
  · intro own held
    rw [same, linked.held] at held
    rw [← Option.some.inj held]
    exact linked.quiet
  · exact (linked.rest other (List.mem_append_right _ behind)).1

theorem call_overflows (linked : manager.Linked client front back session link)
    (large : client.channel.requestCapacity < request.chunks.size) :
    ∃ needed remaining memory,
      manager.call client request =
        some (.error (.channel (.wire (.bufferOverflow needed remaining))), client, manager.setMemory memory) ∧
      (manager.setMemory memory).settle = manager.setMemory memory ∧
      (manager.setMemory memory).Linked client front back session link := by
  obtain ⟨needed, remaining, memory, submitted, next, flags⟩ :=
    Channel.ClientEnd.submit_overflows linked.ready manager.memory large request.opcode
  refine ⟨needed, remaining, memory, ?_, ?_, ?_⟩
  · unfold call exchange
    rw [submitted]
    rfl
  · have idle : (manager.setMemory memory).isPending = false := by
      apply isPending_eq_false
      intro other member own held
      rw [show (manager.setMemory memory).memory = memory from rfl, flags]
      exact linked.idle other member own held
    unfold settle settleWithin
    rw [if_neg (Bool.not_eq_true _ ▸ idle)]
  · exact { linked with
      spans := linked.spans.of_next next
      quiet := (flags _).trans linked.quiet
      lowered := (flags _).trans linked.lowered
      rest := by
        intro other member
        obtain ⟨idle, keeps⟩ := linked.rest other member
        exact ⟨idle.of_flags keeps fun index _ _ => flags index, keeps⟩ }

theorem settle_raised {written : Region.Memory} (linked : manager.Linked client front back session link)
    (other : request ≠ .close) (fits : request.chunks.size ≤ client.channel.requestCapacity)
    (raised : client.channel.Raised manager.memory written request.opcode request.chunks) :
    ∃ told said later,
      (manager.setMemory written).settle = { manager with
        sessions := front ++
          session.answered link (manager.resources.backend.store.handle link.context request).2.1 told :: back
        resources :=
          { backend := { manager.resources.backend with
              store := (manager.resources.backend.store.handle link.context request).2.2 }
            pool := manager.pool.setMemory later
            metrics := manager.metrics.record request.opcode told .zero } } ∧
      link.channel.Published written later told said ∧
      Session.Says link.channel.replyCapacity
        (manager.resources.backend.store.handle link.context request).1.status
        (manager.resources.backend.store.handle link.context request).1.chunks told said := by
  have room : client.channel.requestCapacity = link.channel.request.room := by
    unfold Channel.ClientEnd.requestCapacity
    rw [linked.request]
  have spans := linked.spans.of_next raised.next
  have small : request.chunks.size < UInt64.size := by
    have countable := linked.countable
    omega
  have roomy : Wire.wordLength ≤ link.channel.replyCapacity := by
    have least := Wire.Request.chunks_roomy other
    unfold Channel.ServerEnd.replyCapacity
    rw [← linked.level]
    omega
  have flag : written.flag link.channel.request.index = request.opcode.byte := by
    rw [← linked.request]
    exact raised.raised
  have decoded : link.channel.decode written (Wire.Request.reader request.opcode) = .ok request := by
    obtain ⟨rest, payload⟩ := raised.payload
    unfold Channel.ServerEnd.decode
    rw [← linked.request, payload]
    exact (Wire.Request.spelled request small).run rest
  obtain ⟨told, said, later, served, published, spoken⟩ :=
    Session.serve_request (manager.setMemory written).resources linked.held spans roomy flag decoded other
      (linked.faultless _) .zero
  refine ⟨told, said, later, ?_, published, spoken⟩
  -- no other flag is raised, so the others let their turns pass before this one and behind it
  have before : ∀ session ∈ front ++ back, session.Idle written := by
    intro session member
    obtain ⟨idle, keeps⟩ := linked.rest session member
    apply idle.of_flags keeps
    intro index request _
    apply raised.others
    rw [linked.request]
    exact request
  have enrolled : (manager.setMemory written).sessions = front ++ session :: back := linked.enrolled
  rw [settle_single enrolled]
  · rw [served]
    rfl
  · intro none_pending
    have idle := Session.pending?_eq_none_iff.1 none_pending link linked.held
    change written.flag link.channel.request.index = Wire.emptyFlag at idle
    rw [flag] at idle
    exact request.opcode.byte_ne_empty idle
  · exact before
  · intro session member
    rw [served]
    exact (before session member).of_flags (linked.rest session member).2 published.others
  · rw [served]
    intro own held
    obtain rfl := Option.some.inj held
    exact published.lowered

/-- A request that fits does to the store and to the context what it does there directly, its outcome is
reported to the client, and both ends are ready for the next call. -/
theorem call_fits (linked : manager.Linked client front back session link) (other : request ≠ .close)
    (fits : request.chunks.size ≤ client.channel.requestCapacity) :
    ∃ result later answered,
      manager.call client request = some (result, client, later) ∧
      Client.Reports link.channel.replyCapacity
        (manager.resources.backend.store.handle link.context request).1 result ∧
      later.resources.backend = { manager.resources.backend with
        store := (manager.resources.backend.store.handle link.context request).2.2 } ∧
      later.Linked client front back answered { link with
        context := (manager.resources.backend.store.handle link.context request).2.1 } := by
  have inside : client.channel.request.index < manager.memory.next := by
    rw [linked.request]
    exact linked.spans.request_inside
  obtain ⟨written, submitted, raised⟩ :=
    Channel.ClientEnd.submit_fits linked.ready inside fits request.opcode
  obtain ⟨told, said, later, settled, published, spoken⟩ := linked.settle_raised other fits raised
  have room : link.channel.replyCapacity < UInt64.size := by
    unfold Channel.ServerEnd.replyCapacity
    rw [← linked.level]
    exact linked.countable
  obtain ⟨rest, payload⟩ := published.payload
  obtain ⟨known, result, read, reports⟩ := Client.reads_report rfl room spoken rest
  have stays : request.opcode ≠ .close := by
    cases request with
    | close => exact absurd rfl other
    | read | scan | insert | update | delete => nofun
  have finished : client.channel.finish later request.opcode (Client.responseReader request.opcode) =
      some (.ok result, client.channel, later.setFlag link.channel.response.index Wire.emptyFlag) := by
    rw [← linked.response]
    apply Channel.ClientEnd.finish_status _ known stays
    · rw [linked.response, payload]
      exact read
    · rw [linked.response]
      exact published.raised
  let lowered := later.setFlag link.channel.response.index Wire.emptyFlag
  let counted := (manager.resources.backend.store.handle link.context request).2.1
  have memory : (manager.setMemory written).settle.memory = later := by
    rw [settled]
    rfl
  refine ⟨result, (manager.setMemory written).settle.setMemory lowered,
    session.answered link counted told, ?_, reports, ?_, ?_⟩
  · unfold call exchange
    rw [submitted]
    dsimp only
    rw [memory, finished]
    rfl
  · rw [settled]
    rfl
  · have flags : ∀ index, index ≠ link.channel.request.index → index ≠ link.channel.response.index →
        lowered.flag index = manager.memory.flag index := by
      intro index request response
      rw [Region.Memory.flag_setFlag_of_ne response.symm, published.others index request response]
      apply raised.others
      rw [linked.request]
      exact request
    have next : lowered.next = manager.memory.next := by
      rw [Region.Memory.next_setFlag, published.next, raised.next]
    exact {
      enrolled := by rw [settled]; rfl
      held := rfl
      serving := linked.serving
      request := linked.request
      response := linked.response
      ready := linked.ready
      spans := linked.spans.of_next next
      level := linked.level
      countable := linked.countable
      quiet := (Region.Memory.flag_setFlag_of_ne linked.spans.apart.symm _ _).trans published.lowered
      lowered := Region.Memory.flag_setFlag
        ((linked.spans.of_next (published.next.trans raised.next)).response_inside) _
      faultless := by
        rw [settled]
        exact linked.faultless
      rest := by
        intro session member
        obtain ⟨idle, keeps⟩ := linked.rest session member
        exact ⟨idle.of_flags keeps flags, keeps⟩ }

end Linked

end Manager

end SharedRecords
