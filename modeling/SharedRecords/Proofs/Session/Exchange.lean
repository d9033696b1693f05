import SharedRecords.Proofs.Manager.Transport
import SharedRecords.Proofs.Session.Inversion
import SharedRecords.Proofs.Session.Orderly

/-!
Exchanges over two regions of any sizes. A request that was raised whole is read as what it is, and its
session answers it, or gives up where not even an excuse has room.
-/

namespace SharedRecords

namespace Channel.ClientEnd

variable {client ended : ClientEnd} {memory later : Region.Memory} {status : Wire.Status} {opcode : Wire.Opcode}

theorem finish_raised {α : Type} (raised : memory.flag client.response.index = status.byte)
    (opcode : Wire.Opcode) (reader : Wire.Status → Wire.Reader α) :
    client.finish memory opcode reader =
      some ((client.interpret opcode status.byte (client.response.payload memory) reader).1,
        (client.interpret opcode status.byte (client.response.payload memory) reader).2,
        memory.setFlag client.response.index Wire.emptyFlag) := by
  unfold finish Poller.settle
  rw [raised, if_pos (bne_iff_ne.2 status.byte_ne_empty)]

theorem interpret_aborted {α : Type} (client : ClientEnd) (opcode : Wire.Opcode) (payload : Wire.Payload)
    (reader : Wire.Status → Wire.Reader α) :
    client.interpret opcode Wire.Status.aborted.byte payload reader = (.error .aborted, client.close) := by
  unfold interpret
  rw [Wire.Status.ofByte_byte]

theorem interpret_close {α : Type} (client : ClientEnd) (flag : UInt8) (payload : Wire.Payload)
    (reader : Wire.Status → Wire.Reader α) :
    (client.interpret .close flag payload reader).2.state ≠ .ready := by
  unfold interpret
  split
  · nofun
  · nofun
  · split
    · nofun
    · nofun

theorem finish_close {α : Type} {reader : Wire.Status → Wire.Reader α} {result : Except Error α}
    (finished : client.finish memory .close reader = some (result, ended, later)) : ended.state ≠ .ready := by
  unfold finish at finished
  split at finished
  · contradiction
  · obtain ⟨_, rfl, _⟩ := Option.some.inj finished
    nofun
  · obtain ⟨_, rfl, _⟩ := Option.some.inj finished
    exact interpret_close _ _ _ _

theorem interpret_error {α : Type} {flag : UInt8} {payload : Wire.Payload} {error : Error}
    {reader : Wire.Status → Wire.Reader α}
    (taken : client.interpret opcode flag payload reader = (.error error, ended)) : ended.state ≠ .ready := by
  unfold interpret at taken
  split at taken
  · obtain ⟨_, rfl⟩ := Prod.mk.inj taken
    nofun
  · obtain ⟨_, rfl⟩ := Prod.mk.inj taken
    nofun
  · split at taken
    · obtain ⟨_, rfl⟩ := Prod.mk.inj taken
      nofun
    · cases congrArg Prod.fst taken

theorem finish_error {α : Type} {reader : Wire.Status → Wire.Reader α} {error : Error}
    (finished : client.finish memory opcode reader = some (.error error, ended, later)) :
    ended.state ≠ .ready := by
  unfold finish at finished
  split at finished
  · contradiction
  · obtain ⟨_, rfl, _⟩ := Option.some.inj finished
    nofun
  next flag raised =>
    rcases taken : client.interpret opcode flag (client.response.payload memory) reader with ⟨result, shut⟩
    rw [taken] at finished
    obtain ⟨rfl, rfl, _⟩ := Option.some.inj finished
    exact interpret_error taken

end Channel.ClientEnd

namespace Session

variable {session : Session} {resources : Resources} {client : Client} {link : Link} {request : Wire.Request}
  {memory later written : Region.Memory} {outcome : Store.Outcome} {backend : Store.Backend}
  {context : Store.Context}

/-- The two ends of one channel, where the client's is open. -/
structure Joined (client : Client) (link : Link) (memory : Region.Memory) : Prop where
  request : client.channel.request = link.channel.request
  response : client.channel.response = link.channel.response
  ready : client.channel.state = .ready
  spans : link.channel.Spans memory
  request_countable : link.channel.request.room < UInt64.size
  response_countable : link.channel.response.room < UInt64.size

namespace Joined

theorem of_next (joined : Joined client link memory) (next : memory.next ≤ later.next) :
    Joined client link later :=
  { joined with spans := ⟨joined.spans.apart, Nat.lt_of_lt_of_le joined.spans.request_inside next,
      Nat.lt_of_lt_of_le joined.spans.response_inside next⟩ }

theorem request_inside (joined : Joined client link memory) : client.channel.request.index < memory.next := by
  rw [joined.request]
  exact joined.spans.request_inside

theorem asks (joined : Joined client link memory) (fits : request.chunks.size ≤ client.channel.requestCapacity)
    (raised : client.channel.Raised memory written request.opcode request.chunks) : Asks link written request where
  raised := by
    rw [← joined.request]
    exact raised.raised
  decoded := by
    obtain ⟨rest, payload⟩ := raised.payload
    have small : request.chunks.size < UInt64.size := by
      have countable := joined.request_countable
      unfold Channel.ClientEnd.requestCapacity at fits
      rw [joined.request] at fits
      omega
    unfold Channel.ServerEnd.decode
    rw [← joined.request, payload]
    exact (Wire.Request.spelled request small).run rest

end Joined

/-- What a session does in its turn about a request for the store, by the outcome there. -/
inductive Responds (session : Session) (elapsed : Duration) (resources : Resources) (link : Link)
    (request : Wire.Request) (outcome : Store.Outcome) (backend : Store.Backend) (context : Store.Context) :
    Session × Resources → Prop where
  | answered {told : Wire.Status} {said : Wire.Message} {memory : Region.Memory}
      (published : link.channel.Published resources.memory memory told said)
      (spoken : Says link.channel.replyCapacity outcome.status outcome.chunks told said) :
      Responds session elapsed resources link request outcome backend context
        (session.answered link context told, resources.concluded backend memory request.opcode told elapsed)
  | gaveUp {memory : Region.Memory} (tight : link.channel.replyCapacity < Wire.wordLength)
      (large : link.channel.replyCapacity < outcome.chunks.size) (next : memory.next = resources.memory.next)
      (flags : ∀ index, memory.flag index = resources.memory.flag index) :
      Responds session elapsed resources link request outcome backend context
        (session.counted.abort link.channel (.responseOverflow link.channel.replyCapacity)
          { resources.setMemory memory with backend })

theorem serve_responds (resources : Resources) (held : session.link = some link)
    (spans : link.channel.Spans resources.memory)
    (asks : Asks link resources.memory request) (other : request ≠ .close)
    (handled : resources.backend.handle link.context request = (.finished outcome backend, context))
    (elapsed : Duration) :
    session.Responds elapsed resources link request outcome backend context (session.serve elapsed resources) := by
  rw [serve_asked held asks other]
  rcases publish_cases spans (Store.Outcome.status outcome) (Store.Outcome.chunks outcome) with
    ⟨told, said, later, published, leaves, spoken⟩ | ⟨tight, large, later, overflow, next, flags⟩
  · rw [handle_answered handled published]
    exact .answered leaves spoken
  · rw [handle_overflowed handled overflow]
    exact .gaveUp tight large next flags

theorem abort_published (session : Session) (spans : link.channel.Spans memory)
    (cause : Violation) (shared : resources.memory.next = memory.next)
    (flags : ∀ index, resources.memory.flag index = memory.flag index) :
    link.channel.Published memory (session.abort link.channel cause resources).2.memory .aborted [] := by
  rw [abort_memory]
  exact Channel.ServerEnd.publish_published (spans.of_next shared) shared flags
    ⟨link.channel.response.payload resources.memory, rfl⟩

/-! ## What a session leaves at its end -/

theorem closeContext_backend (session : Session) (result : Except Error Summary) (resources : Resources) :
    ∃ closed, (session.closeContext result resources).2.backend =
      { resources.backend with store := { resources.backend.store with closed } } := by
  unfold closeContext Store.Backend.closeContext Store.Backend.guarded
  cases resources.backend.faults .closeContext with
  | none => exact ⟨_, rfl⟩
  | some fault =>
    cases fault with
    | fails error => exact ⟨_, rfl⟩
    | crashes => exact ⟨_, rfl⟩

theorem teardown_backend (session : Session) (result : Except Error Summary) (resources : Resources) :
    ∃ closed, (session.teardown result resources).2.backend =
      { resources.backend with store := { resources.backend.store with closed } } := by
  let unmapped := { (session.enter .closing).note .unmapped with link := none }
  obtain ⟨closed, same⟩ := closeContext_backend (unmapped.releaseRegions resources).1 result
    (unmapped.releaseRegions resources).2
  rw [releaseRegions_backend] at same
  exact ⟨closed, same⟩

theorem teardown_faults (session : Session) (result : Except Error Summary) (resources : Resources) :
    (session.teardown result resources).2.backend.faults = resources.backend.faults := by
  obtain ⟨closed, same⟩ := session.teardown_backend result resources
  rw [same]

theorem abort_tables (session : Session) (channel : Channel.ServerEnd) (cause : Violation) (resources : Resources) :
    (session.abort channel cause resources).2.backend.store.tables = resources.backend.store.tables := by
  obtain ⟨closed, same⟩ := (session.note (.published .aborted)).teardown_backend (.error (.violation cause))
    { resources.setMemory (channel.abort resources.memory) with metrics := resources.metrics.protocolError }
  unfold abort
  rw [same]
  rfl

theorem serve_faults (session : Session) (elapsed : Duration) (resources : Resources) :
    (session.serve elapsed resources).2.backend.faults = resources.backend.faults := by
  have turn := session.serve_turn elapsed resources
  generalize session.serve elapsed resources = result at turn
  cases turn with
  | idle => rfl
  | refused => exact teardown_faults _ _ _
  | closed => exact teardown_faults _ _ _
  | crashed => rfl
  | answered held asks other handled => exact Store.Backend.handle_faults handled
  | overflowed held asks other handled =>
    exact (teardown_faults _ _ _).trans (Store.Backend.handle_faults handled)

/-! ## What a session leaves to others -/

end Session

namespace Channel.ServerEnd

variable {server : ServerEnd} {index : Nat}

theorem cell_publish (request : server.request.index ≠ index) (response : server.response.index ≠ index)
    (memory : Region.Memory) (status : Wire.Status) :
    (server.publish memory status).cell index = memory.cell index := by
  unfold publish Region.Memory.setFlag
  rw [Region.Memory.cell_change_of_ne response, Region.Memory.cell_change_of_ne request]

theorem cell_respond (request : server.request.index ≠ index) (response : server.response.index ≠ index)
    (memory : Region.Memory) (status : Wire.Status) (message : Wire.Message) :
    (server.respond memory status message).2.cell index = memory.cell index := by
  have wrote : (server.response.write memory message).2.cell index = memory.cell index :=
    Region.Memory.cell_change_of_ne response _
  unfold respond
  generalize server.response.write memory message = attempt at wrote
  obtain ⟨failure, written⟩ := attempt
  cases failure with
  | some error => exact wrote
  | none => exact (cell_publish request response written status).trans wrote

end Channel.ServerEnd

namespace Session

variable {session : Session} {resources : Resources} {link : Link}

theorem cell_publish {server : Channel.ServerEnd} {index : Nat} (request : server.request.index ≠ index)
    (response : server.response.index ≠ index) (memory : Region.Memory) (status : Wire.Status)
    (message : Wire.Message) : (publish server memory status message).2.cell index = memory.cell index := by
  have first := Channel.ServerEnd.cell_respond request response memory status message
  unfold publish
  generalize server.respond memory status message = attempt at first
  obtain ⟨failure, written⟩ := attempt
  cases failure with
  | none => exact first
  | some error =>
    have second := Channel.ServerEnd.cell_respond request response written .failed
      [.text (overflowNote status error server.replyCapacity)]
    dsimp only
    generalize server.respond written .failed _ = attempt at second
    obtain ⟨failure, last⟩ := attempt
    cases failure with
    | none => exact second.trans first
    | some _ => exact second.trans first

theorem serve_cell {index : Nat} (apart : ∀ link, session.link = some link →
      link.channel.request.index ≠ index ∧ link.channel.response.index ≠ index)
    (elapsed : Duration) (resources : Resources) :
    (session.serve elapsed resources).2.memory.cell index = resources.memory.cell index := by
  have turn := session.serve_turn elapsed resources
  generalize session.serve elapsed resources = result at turn
  cases turn with
  | idle => rfl
  | crashed => rfl
  | refused held =>
    obtain ⟨request, response⟩ := apart _ held
    rw [abort_memory]
    exact Channel.ServerEnd.cell_publish request response _ _
  | closed held =>
    obtain ⟨request, response⟩ := apart _ held
    rw [teardown_memory]
    exact (Channel.ServerEnd.cell_publish request response _ _).trans (Region.Memory.cell_change_of_ne response _)
  | @answered _ _ outcome _ _ _ _ held _ _ _ published =>
    obtain ⟨request, response⟩ := apart _ held
    have cell := cell_publish request response resources.memory outcome.status outcome.chunks
    rw [published] at cell
    exact cell
  | @overflowed _ _ outcome _ _ _ _ held _ _ _ overflow =>
    obtain ⟨request, response⟩ := apart _ held
    have cell := cell_publish request response resources.memory outcome.status outcome.chunks
    rw [overflow] at cell
    rw [abort_memory]
    exact (Channel.ServerEnd.cell_publish request response _ _).trans cell

end Session

end SharedRecords
