import SharedRecords.Proofs.Session.Exchange
import SharedRecords.Proofs.Session.Lifecycle

/-!
Conversations in which the client keeps to its part: it calls, waits for as long as it takes, and asks to
close last. A call goes from one stand of the conversation to the next, and none of them is a dead end.
-/

namespace SharedRecords

namespace Session

variable {session : Session} {resources : Resources}

theorem teardown_finished (session : Session) (result : Except Error Summary)
    (sane : resources.backend.faults .closeContext ≠ some .crashes) :
    (session.teardown result resources).1.ending = some (.finished result) ∧
      (session.teardown result resources).1.id = session.id ∧
      ∀ status, .published status ∈ (session.teardown result resources).1.journal →
        .published status ∈ session.journal := by
  have closed (session : Session) {resources : Resources}
      (sane : resources.backend.faults .closeContext ≠ some .crashes) :
      (session.closeContext result resources).1 =
        { (session.note .contextClosed).enter .terminated with ending := some (.finished result) } := by
    unfold closeContext Store.Backend.closeContext Store.Backend.guarded
    cases planned : resources.backend.faults .closeContext with
    | none => rfl
    | some fault =>
      cases fault with
      | fails error => rfl
      | crashes => exact absurd planned sane
  let unmapped := { (session.enter .closing).note .unmapped with link := none }
  obtain ⟨handles, released⟩ := releaseRegions_eq unmapped resources
  have kept : (unmapped.releaseRegions resources).2.backend.faults .closeContext ≠ some .crashes := by
    rw [releaseRegions_backend]
    exact sane
  have whole : (session.teardown result resources).1 =
      { ((unmapped.releaseRegions resources).1.note .contextClosed).enter .terminated with
        ending := some (.finished result) } := closed _ kept
  rw [whole, released]
  refine ⟨rfl, rfl, ?_⟩
  intro status member
  change .published status ∈ .entered .terminated :: .contextClosed :: (handles.map .released ++
    .unmapped :: .entered .closing :: session.journal) at member
  simpa using member

end Session

namespace Store.Backend

variable {backend later : Backend} {context counted : Context} {request : Wire.Request}

theorem answer_of_handled {reply : Wire.Reply}
    (handled : backend.handle context request = (.finished (.ok reply) later, counted)) :
    ∃ store, backend.store.answer request = (.ok reply, store) := by
  unfold handle Store.handle at handled
  dsimp only at handled
  split at handled
  · cases congrArg Prod.fst handled
  · cases congrArg Prod.fst handled
  · obtain ⟨same, _⟩ := Effect.finished.inj (congrArg Prod.fst handled)
    exact ⟨_, Prod.ext same rfl⟩

theorem handle_finished (sane : backend.faults (.serve request.opcode) ≠ some .crashes) (context : Context) :
    ∃ outcome later counted, backend.handle context request = (.finished outcome later, counted) := by
  unfold handle
  dsimp only
  split
  · exact ⟨_, _, _, rfl⟩
  next planned => exact absurd planned sane
  · exact ⟨_, _, _, rfl⟩

end Store.Backend

namespace Client

/-- What a call of a client comes to as long as its session stands. -/
inductive Regular : Except Error Wire.Reply → Prop where
  | reply (reply : Wire.Reply) : Regular (.ok reply)
  | notFound : Regular (.error .notFound)
  | conflict : Regular (.error .conflict)
  | failed (reason : String) : Regular (.error (.failed reason))
  | overflow (needed remaining : Nat) : Regular (.error (.channel (.wire (.bufferOverflow needed remaining))))

theorem meaning_regular (outcome : Store.Outcome) : Regular (meaning outcome) := by
  cases outcome with
  | ok reply => exact .reply reply
  | error error =>
    cases error with
    | notFound => exact .notFound
    | conflict => exact .conflict
    | unknownTable | unknownColumn | tableExists | failed => exact .failed _

variable {backend later : Store.Backend} {context counted : Store.Context} {request : Wire.Request}
  {outcome : Store.Outcome}

theorem responseReader_handled (handled : backend.handle context request = (.finished outcome later, counted))
    (countable : outcome.chunks.size < UInt64.size) (rest : Wire.Payload) :
    (responseReader request.opcode outcome.status).run (outcome.chunks.bytes ++ rest) =
      .ok (meaning outcome) := by
  cases outcome with
  | ok reply =>
    obtain ⟨store, answered⟩ := Store.Backend.answer_of_handled handled
    exact responseReader_outcome answered countable rest
  | error error => exact responseReader_error countable request.opcode rest

theorem reads_regular {room : Nat} {told : Wire.Status} {said : Wire.Message}
    (handled : backend.handle context request = (.finished outcome later, counted))
    (countable : room < UInt64.size) (spoken : Session.Says room outcome.status outcome.chunks told said)
    (rest : Wire.Payload) : told ≠ .aborted ∧ ∃ result,
      (responseReader request.opcode told).run (said.bytes ++ rest) = .ok result ∧ Regular result := by
  cases spoken with
  | answer fits =>
    have small := Nat.lt_of_le_of_lt fits countable
    exact ⟨outcome.status_ne_aborted, _, responseReader_handled handled small rest, meaning_regular outcome⟩
  | excuse large reason fits =>
    have small := Nat.lt_of_le_of_lt fits countable
    exact ⟨nofun, _, responseReader_failed small request.opcode rest, .failed reason⟩

end Client

/-- A client and its session, what they share with others, and what was said so far. -/
structure Conversation where
  client : Client
  session : Session
  resources : Session.Resources
  /-- The request that waits for its response. -/
  asked : Option Wire.Request
  /-- What the calls have come to, the latest first. -/
  calls : List (Wire.Request × Except Client.Error Wire.Reply)
  /-- The calls that have raised the request flag. -/
  raised : Nat

namespace Conversation

def begin (client : Client) (session : Session) (resources : Session.Resources) : Conversation :=
  ⟨client, session, resources, none, [], 0⟩

def served (talk : Conversation) (elapsed : Duration) : Conversation :=
  { talk with
    session := (talk.session.serve elapsed talk.resources).1
    resources := (talk.session.serve elapsed talk.resources).2 }

def Closed (talk : Conversation) : Prop := ∃ result, (Wire.Request.close, result) ∈ talk.calls

/-- What others can do meanwhile: anything, as long as they leave the two regions as they are and nothing
is about to crash in the store. -/
structure Untouched (talk : Conversation) (later : Session.Resources) : Prop where
  request : later.memory.cell talk.client.channel.request.index =
    talk.resources.memory.cell talk.client.channel.request.index
  response : later.memory.cell talk.client.channel.response.index =
    talk.resources.memory.cell talk.client.channel.response.index
  cells : talk.resources.memory.next ≤ later.memory.next
  sane : ∀ entry, later.backend.faults entry ≠ some .crashes

/-- The client calls whenever no call of its own is under way, and not behind its request to close. The
session takes its turns and others act at any time. -/
inductive Step (talk : Conversation) : Conversation → Prop where
  | refused {request : Wire.Request} {error : Channel.Error} {memory : Region.Memory} (free : talk.asked = none)
      (unclosed : ¬ talk.Closed)
      (submitted : talk.client.channel.submit talk.resources.memory request.opcode request.chunks =
        (some error, memory)) :
      Step talk { talk with
        resources := talk.resources.setMemory memory
        calls := (request, .error (.channel error)) :: talk.calls }
  | raised {request : Wire.Request} {memory : Region.Memory} (free : talk.asked = none) (unclosed : ¬ talk.Closed)
      (submitted : talk.client.channel.submit talk.resources.memory request.opcode request.chunks =
        (none, memory)) :
      Step talk { talk with
        resources := talk.resources.setMemory memory
        asked := some request
        raised := talk.raised + 1 }
  | served (elapsed : Duration) : Step talk (talk.served elapsed)
  | answered {request : Wire.Request} {result : Except Channel.Error (Except Client.Error Wire.Reply)}
      {channel : Channel.ClientEnd} {memory : Region.Memory} (asked : talk.asked = some request)
      (finished : talk.client.channel.finish talk.resources.memory request.opcode
        (Client.responseReader request.opcode) = some (result, channel, memory)) :
      Step talk { talk with
        client := { talk.client with channel }
        resources := talk.resources.setMemory memory
        asked := none
        calls := (request, Client.settle result) :: talk.calls }
  | meanwhile {later : Session.Resources} (untouched : talk.Untouched later) :
      Step talk { talk with resources := later }

/-- Nothing has gone wrong, and nothing can while the session takes its turns. -/
structure Untroubled (talk : Conversation) : Prop where
  regular : ∀ call ∈ talk.calls, Client.Regular call.2
  /-- The session has told of no violation. -/
  kept : .published .aborted ∉ talk.session.journal
  /-- The session ends as it was asked to, if at all, and has counted the calls that raised their flag. -/
  ends : talk.session.result? = none ∨ talk.session.result? = some (.ok ⟨talk.session.id, talk.raised⟩)
  closes : talk.Closed → talk.session.result? = some (.ok ⟨talk.session.id, talk.raised⟩)
  /-- Behind one more turn of the session, the wait of a call is over. -/
  responds : ∀ request, talk.asked = some request → ∀ elapsed, ∃ answer,
    (talk.served elapsed).client.channel.finish (talk.served elapsed).resources.memory request.opcode
      (Client.responseReader request.opcode) = some answer

/-! ## Where a conversation stands -/

/-- Both ends are open, over two regions of one size. -/
structure Bound (talk : Conversation) (link : Session.Link) : Prop where
  held : talk.session.link = some link
  joined : Session.Joined talk.client link talk.resources.memory
  level : link.channel.request.room = link.channel.response.room
  patient : talk.client.channel.poller.deadline = none
  unended : talk.session.ending = none
  unclosed : ¬ talk.Closed

structure Quiet (talk : Conversation) (link : Session.Link) : Prop where
  bound : talk.Bound link
  free : talk.asked = none
  request_flag : talk.resources.memory.flag link.channel.request.index = Wire.emptyFlag
  response_flag : talk.resources.memory.flag link.channel.response.index = Wire.emptyFlag
  counted : talk.session.requests = talk.raised

structure Pending (talk : Conversation) (link : Session.Link) (request : Wire.Request) : Prop where
  bound : talk.Bound link
  asked : talk.asked = some request
  asks : Session.Asks link talk.resources.memory request
  fits : request.chunks.size ≤ link.channel.request.room
  response_flag : talk.resources.memory.flag link.channel.response.index = Wire.emptyFlag
  counted : talk.session.requests + 1 = talk.raised

structure Told (talk : Conversation) (link : Session.Link) (request : Wire.Request) : Prop where
  bound : talk.Bound link
  asked : talk.asked = some request
  other : request ≠ .close
  request_flag : talk.resources.memory.flag link.channel.request.index = Wire.emptyFlag
  readable : ∃ status result, status ≠ .aborted ∧
    talk.resources.memory.flag link.channel.response.index = status.byte ∧
    (Client.responseReader request.opcode status).run (link.channel.response.payload talk.resources.memory) =
      .ok result ∧ Client.Regular result
  counted : talk.session.requests = talk.raised

/-- The session has ended as it was asked to. -/
structure Ended (talk : Conversation) : Prop where
  unlinked : talk.session.link = none
  finished : talk.session.ending = some (.finished (.ok ⟨talk.session.id, talk.raised⟩))

inductive Phase (talk : Conversation) : Prop where
  | quiet {link : Session.Link} (quiet : talk.Quiet link)
  | pending {link : Session.Link} {request : Wire.Request} (pending : talk.Pending link request)
  | told {link : Session.Link} {request : Wire.Request} (told : talk.Told link request)
  | closing (asked : talk.asked = some .close) (ended : talk.Ended)
      (response_flag : talk.resources.memory.flag talk.client.channel.response.index = Wire.Status.ok.byte)
  | closed (free : talk.asked = none) (ended : talk.Ended) (closed : talk.Closed)

/-- What holds of a conversation at any time. -/
structure Sound (talk : Conversation) : Prop where
  phase : talk.Phase
  regular : ∀ call ∈ talk.calls, Client.Regular call.2
  kept : .published .aborted ∉ talk.session.journal
  sane : ∀ entry, talk.resources.backend.faults entry ≠ some .crashes

variable {talk : Conversation} {link : Session.Link} {request : Wire.Request} {memory : Region.Memory}

theorem Bound.write (bound : talk.Bound link) (next : memory.next = talk.resources.memory.next)
    {asked : Option Wire.Request} {raised : Nat}
    {calls : List (Wire.Request × Except Client.Error Wire.Reply)}
    (unclosed : ∀ result, (.close, result) ∉ calls) :
    Bound { talk with resources := talk.resources.setMemory memory, asked, calls, raised } link where
  held := bound.held
  joined := bound.joined.of_next (Nat.le_of_eq next.symm)
  level := bound.level
  patient := bound.patient
  unended := bound.unended
  unclosed := fun ⟨result, member⟩ => unclosed result member

theorem Bound.unclosed_cons {result : Except Client.Error Wire.Reply} (bound : talk.Bound link)
    (other : request ≠ .close) (last : Except Client.Error Wire.Reply) :
    (.close, last) ∉ (request, result) :: talk.calls := by
  intro member
  rcases List.mem_cons.1 member with same | earlier
  · exact other (congrArg Prod.fst same).symm
  · exact bound.unclosed ⟨last, earlier⟩

theorem Quiet.refused {error : Channel.Error} (quiet : talk.Quiet link)
    (submitted : talk.client.channel.submit talk.resources.memory request.opcode request.chunks =
      (some error, memory)) :
    Client.Regular (.error (.channel error)) ∧
      Quiet { talk with
        resources := talk.resources.setMemory memory
        calls := (request, .error (.channel error)) :: talk.calls } link := by
  have joined := quiet.bound.joined
  by_cases fits : request.chunks.size ≤ talk.client.channel.requestCapacity
  · obtain ⟨_, raised, _⟩ :=
      Channel.ClientEnd.submit_fits joined.ready joined.request_inside fits request.opcode
    cases congrArg Prod.fst (submitted.symm.trans raised)
  · obtain ⟨needed, remaining, _, overflowed, next, flags⟩ := Channel.ClientEnd.submit_overflows joined.ready
      talk.resources.memory (Nat.lt_of_not_le fits) request.opcode
    obtain ⟨failed, rfl⟩ := Prod.mk.inj (submitted.symm.trans overflowed)
    obtain rfl := Option.some.inj failed
    have other : request ≠ .close := by
      rintro rfl
      exact fits (Nat.zero_le _)
    refine ⟨.overflow needed remaining, ?_⟩
    exact {
      bound := quiet.bound.write next (quiet.bound.unclosed_cons other)
      free := quiet.free
      request_flag := (flags _).trans quiet.request_flag
      response_flag := (flags _).trans quiet.response_flag
      counted := quiet.counted }

theorem Quiet.raised (quiet : talk.Quiet link)
    (submitted : talk.client.channel.submit talk.resources.memory request.opcode request.chunks =
      (none, memory)) :
    Pending { talk with
      resources := talk.resources.setMemory memory
      asked := some request
      raised := talk.raised + 1 } link request := by
  have joined := quiet.bound.joined
  by_cases fits : request.chunks.size ≤ talk.client.channel.requestCapacity
  · obtain ⟨_, attempt, raised⟩ :=
      Channel.ClientEnd.submit_fits joined.ready joined.request_inside fits request.opcode
    obtain rfl := congrArg Prod.snd (submitted.symm.trans attempt)
    have apart : link.channel.response.index ≠ talk.client.channel.request.index := by
      rw [joined.request]
      exact joined.spans.apart.symm
    exact {
      bound := quiet.bound.write raised.next fun result member => quiet.bound.unclosed ⟨result, member⟩
      asked := rfl
      asks := joined.asks fits raised
      fits := by
        rw [← joined.request]
        exact fits
      response_flag := (raised.others _ apart).trans quiet.response_flag
      counted := congrArg (· + 1) quiet.counted }
  · obtain ⟨_, _, _, overflowed, _⟩ := Channel.ClientEnd.submit_overflows joined.ready
      talk.resources.memory (Nat.lt_of_not_le fits) request.opcode
    cases congrArg Prod.fst (submitted.symm.trans overflowed)

theorem served_idle (idle : talk.session.Idle talk.resources.memory) (elapsed : Duration) :
    talk.served elapsed = talk := by
  unfold served
  rw [Session.serve_idle idle]

theorem Bound.idle (bound : talk.Bound link)
    (lowered : talk.resources.memory.flag link.channel.request.index = Wire.emptyFlag) :
    talk.session.Idle talk.resources.memory := by
  intro own held
  obtain rfl := Option.some.inj (bound.held.symm.trans held)
  exact lowered

theorem Pending.roomy (pending : talk.Pending link request) (other : request ≠ .close) :
    Wire.wordLength ≤ link.channel.replyCapacity := by
  have least := Wire.Request.chunks_roomy other
  have level := pending.bound.level
  have fits := pending.fits
  unfold Channel.ServerEnd.replyCapacity
  omega

theorem Pending.served (pending : talk.Pending link request) (other : request ≠ .close)
    (sane : ∀ entry, talk.resources.backend.faults entry ≠ some .crashes) (elapsed : Duration) :
    ∃ context status, (talk.served elapsed).Told { link with context } request ∧ status ≠ .aborted ∧
      (talk.served elapsed).session.journal = .published status :: talk.session.journal := by
  have joined := pending.bound.joined
  obtain ⟨outcome, backend, context, handled⟩ :=
    Store.Backend.handle_finished (sane (.serve request.opcode)) link.context
  have responds :=
    Session.serve_responds talk.resources pending.bound.held joined.spans pending.asks other handled elapsed
  unfold Conversation.served
  generalize talk.session.serve elapsed talk.resources = turn at responds
  cases responds with
  | gaveUp tight => exact absurd (pending.roomy other) (Nat.not_le.2 tight)
  | @answered told said memory published spoken =>
    obtain ⟨rest, payload⟩ := published.payload
    obtain ⟨known, result, read, regular⟩ :=
      Client.reads_regular handled joined.response_countable spoken rest
    refine ⟨context, told, ?_, known, rfl⟩
    exact {
      bound := {
        held := rfl
        joined := { joined.of_next (Nat.le_of_eq published.next.symm) with }
        level := pending.bound.level
        patient := pending.bound.patient
        unended := pending.bound.unended
        unclosed := pending.bound.unclosed }
      asked := pending.asked
      other
      request_flag := published.lowered
      readable := by
        refine ⟨told, result, known, published.raised, ?_, regular⟩
        show (Client.responseReader request.opcode told).run (link.channel.response.payload memory) = _
        rw [payload]
        exact read
      counted := pending.counted }

theorem Pending.closes (pending : talk.Pending link .close)
    (sane : ∀ entry, talk.resources.backend.faults entry ≠ some .crashes) (elapsed : Duration) :
    (talk.served elapsed).Ended ∧ (∀ status, .published status ∈ (talk.served elapsed).session.journal →
        status = .ok ∨ .published status ∈ talk.session.journal) ∧
      (talk.served elapsed).resources.memory.flag talk.client.channel.response.index = Wire.Status.ok.byte := by
  have joined := pending.bound.joined
  let emptied := (link.channel.response.write talk.resources.memory []).2
  have next : emptied.next = talk.resources.memory.next := Region.Window.next_write _ _ _
  have flags : ∀ index, emptied.flag index = talk.resources.memory.flag index :=
    Region.Window.flag_write _ _ _
  have published : link.channel.Published talk.resources.memory (link.channel.publish emptied .ok) .ok [] :=
    Channel.ServerEnd.publish_published (joined.spans.of_next next) next flags
      ⟨link.channel.response.payload emptied, rfl⟩
  let concluded := talk.resources.concluded talk.resources.backend (link.channel.publish emptied .ok) .close .ok elapsed
  let told := talk.session.counted.note (.published .ok)
  obtain ⟨finished, id, journal⟩ := told.teardown_finished (.ok ⟨talk.session.id, talk.session.requests + 1⟩)
    (show concluded.backend.faults .closeContext ≠ some .crashes from sane .closeContext)
  unfold Conversation.served
  rw [Session.serve_closed pending.bound.held pending.asks]
  refine ⟨⟨Session.teardown_link _ _ _, ?_⟩, ?_, ?_⟩
  · show (told.teardown _ concluded).1.ending = some (.finished (.ok ⟨(told.teardown _ concluded).1.id, talk.raised⟩))
    rw [finished, id, ← pending.counted]
    rfl
  · intro status member
    rcases List.mem_cons.1 (journal status member) with same | earlier
    · exact .inl (Session.Event.published.inj same)
    · exact .inr earlier
  · rw [Session.teardown_memory, joined.response]
    exact published.raised

theorem Ended.served (ended : talk.Ended) (elapsed : Duration) : talk.served elapsed = talk := by
  unfold Conversation.served
  rw [Session.serve_unlinked ended.unlinked]

theorem Pending.waits (pending : talk.Pending link request) {α : Type} (opcode : Wire.Opcode)
    (reader : Wire.Status → Wire.Reader α) :
    talk.client.channel.finish talk.resources.memory opcode reader = none := by
  unfold Channel.ClientEnd.finish Channel.Poller.settle
  rw [pending.bound.joined.response, pending.response_flag, pending.bound.patient]
  rfl

theorem Told.answered {result : Except Channel.Error (Except Client.Error Wire.Reply)}
    {channel : Channel.ClientEnd} (told : talk.Told link request)
    (finished : talk.client.channel.finish talk.resources.memory request.opcode
      (Client.responseReader request.opcode) = some (result, channel, memory)) :
    Client.Regular (Client.settle result) ∧
      Quiet { talk with
        client := { talk.client with channel }
        resources := talk.resources.setMemory memory
        asked := none
        calls := (request, Client.settle result) :: talk.calls } link := by
  have joined := told.bound.joined
  obtain ⟨status, value, known, raised, read, regular⟩ := told.readable
  rw [← joined.response] at raised read
  have taken := Channel.ClientEnd.finish_status raised known (Wire.Request.opcode_ne_close told.other) read
  obtain ⟨rfl, rfl, rfl⟩ := Option.some.inj (finished.symm.trans taken)
  have next := Region.Memory.next_setFlag talk.resources.memory talk.client.channel.response.index Wire.emptyFlag
  refine ⟨regular, ?_⟩
  exact {
    bound := told.bound.write next (told.bound.unclosed_cons told.other)
    free := rfl
    request_flag := by
      show Region.Memory.flag _ link.channel.request.index = _
      rw [joined.response]
      exact (Region.Memory.flag_setFlag_of_ne joined.spans.apart.symm _ _).trans told.request_flag
    response_flag := by
      show Region.Memory.flag _ link.channel.response.index = _
      rw [joined.response]
      exact Region.Memory.flag_setFlag joined.spans.response_inside _
    counted := told.counted }

theorem close_answered {client : Channel.ClientEnd} {result : Except Channel.Error (Except Client.Error Wire.Reply)}
    {channel : Channel.ClientEnd} {shared : Region.Memory}
    (raised : shared.flag client.response.index = Wire.Status.ok.byte)
    (finished : client.finish shared .close (Client.responseReader .close) = some (result, channel, memory)) :
    result = .ok (.ok .empty) := by
  have taken := Channel.ClientEnd.finish_raised raised .close (Client.responseReader .close)
  obtain ⟨rfl, _⟩ := Option.some.inj (finished.symm.trans taken)
  unfold Channel.ClientEnd.interpret
  rw [Wire.Status.ofByte_byte]
  rfl

end Conversation

end SharedRecords
