import SharedRecords.Manager.Exchange
import SharedRecords.Proofs.Channel.Frames
import SharedRecords.Proofs.Channel.Submission
import SharedRecords.Proofs.Wire.Decoding

/-!
The standing of a channel behind a call. Whatever the other end does, an error is fatal exactly if the channel
is shut with it, the one that is not is that of a request which was never sent, and a channel that is shut
stays shut.
-/

namespace SharedRecords.Channel

open Region (Memory Window)

variable {α : Type} {client ended : ClientEnd} {memory after : Memory} {opcode : Wire.Opcode}
  {message : Wire.Message} {peer : Memory → Memory} {reader : Wire.Status → Wire.Reader α}
  {result : Except Error α}

theorem Error.isFatal_wire (error : Wire.Error) : (Error.wire error).isFatal = !error.isOverflow := by
  cases error with
  | _ => rfl

theorem Poller.empty_of_settle_elapsed {poller : Poller} {flag : UInt8} {pace waited : Duration}
    (elapsed : poller.settle pace flag = .elapsed waited) : flag = Wire.emptyFlag := by
  unfold settle at elapsed
  by_cases raised : (flag != Wire.emptyFlag) = true
  · rw [if_pos raised] at elapsed
    contradiction
  · simpa using raised

namespace ClientEnd

theorem isOpen_iff (client : ClientEnd) : client.isOpen = true ↔ client.state = .ready := beq_iff_eq

theorem isOpen_eq_false_iff (client : ClientEnd) : client.isOpen = false ↔ client.state ≠ .ready :=
  beq_eq_false_iff_ne

@[simp] theorem isOpen_poison (client : ClientEnd) : client.poison.isOpen = false := rfl

@[simp] theorem isOpen_close (client : ClientEnd) : client.close.isOpen = false := rfl

/-- A whole call. Once the request is raised, the other end does to the regions what it likes, or nothing. -/
def call (client : ClientEnd) (memory : Memory) (opcode : Wire.Opcode) (message : Wire.Message)
    (peer : Memory → Memory) (reader : Wire.Status → Wire.Reader α) :
    Option (Except Error α × ClientEnd × Memory) :=
  match client.submit memory opcode message with
  | (some error, written) => some (.error error, client, written)
  | (none, raised) => client.finish (peer raised) opcode reader

/-! ## Requests that are not sent -/

theorem call_of_large (ready : client.state = .ready) (memory : Memory)
    (large : client.requestCapacity < message.size) (opcode : Wire.Opcode) (peer : Memory → Memory)
    (reader : Wire.Status → Wire.Reader α) :
    ∃ needed remaining, client.call memory opcode message peer reader =
      some (.error (.wire (.bufferOverflow needed remaining)), client,
        (client.request.write memory message).2) := by
  obtain ⟨needed, remaining, written, attempt, _⟩ :=
    Window.write_of_lt_size client.request.toWindow memory large
  refine ⟨needed, remaining, ?_⟩
  unfold call
  rw [submit_of_ready ready, attempt]

theorem call_of_fits (ready : client.state = .ready) (memory : Memory)
    (fits : message.size ≤ client.requestCapacity) (opcode : Wire.Opcode) (peer : Memory → Memory)
    (reader : Wire.Status → Wire.Reader α) :
    ∃ raised, client.call memory opcode message peer reader = client.finish (peer raised) opcode reader := by
  have whole := (Window.write_failure_eq_none_iff client.request.toWindow memory message).2 fits
  rcases attempt : client.request.write memory message with ⟨failure, written⟩
  rw [attempt] at whole
  obtain rfl : failure = none := whole
  refine ⟨written.setFlag client.request.index opcode.byte, ?_⟩
  unfold call
  rw [submit_of_ready ready, attempt]

theorem call_of_refusal {error : Error} (shut : client.refusal? = some error) (memory : Memory)
    (opcode : Wire.Opcode) (message : Wire.Message) (peer : Memory → Memory)
    (reader : Wire.Status → Wire.Reader α) :
    client.call memory opcode message peer reader = some (.error error, client, memory) := by
  unfold call submit
  rw [shut]

/-! ## Responses -/

/-- How a response leaves the channel: shut by every error, each of which is fatal, and otherwise as the
request asked for. -/
structure Concludes (client : ClientEnd) (opcode : Wire.Opcode) (result : Except Error α)
    (ended : ClientEnd) : Prop where
  same : ended = { client with state := ended.state }
  failed : ∀ error, result = .error error → error.isFatal = true ∧ ended.isOpen = false
  served : ∀ value, result = .ok value → (ended.isOpen = true ↔ opcode ≠ .close)

theorem concludes_poison {error : Error} (fatal : error.isFatal = true) :
    client.Concludes opcode (.error error : Except Error α) client.poison where
  same := rfl
  failed _ told := by
    obtain rfl := Except.error.inj told
    exact ⟨fatal, rfl⟩
  served _ told := by contradiction

theorem concludes_aborted : client.Concludes opcode (.error .aborted : Except Error α) client.close where
  same := rfl
  failed _ told := by
    obtain rfl := Except.error.inj told
    exact ⟨rfl, rfl⟩
  served _ told := by contradiction

theorem concludes_served (ready : client.state = .ready) (value : α) :
    client.Concludes opcode (.ok value) (if opcode = .close then client.close else client) where
  same := by
    by_cases closing : opcode = .close
    · rw [if_pos closing]
      rfl
    · rw [if_neg closing]
  failed _ told := by contradiction
  served _ _ := by
    by_cases closing : opcode = .close
    · rw [if_pos closing]
      exact ⟨fun shut => absurd shut (by simp), fun stays => absurd closing stays⟩
    · rw [if_neg closing]
      exact ⟨fun _ => closing, fun _ => client.isOpen_iff.2 ready⟩

theorem interpret_concludes (ready : client.state = .ready) (built : ∀ status, (reader status).Built)
    (flag : UInt8) (payload : Wire.Payload) :
    client.Concludes opcode (client.interpret opcode flag payload reader).1
      (client.interpret opcode flag payload reader).2 := by
  unfold interpret
  cases known : Wire.Status.ofByte flag with
  | error error =>
    refine concludes_poison ?_
    rw [Wire.Status.error_of_ofByte known]
    rfl
  | ok status =>
    cases status with
    | aborted => exact concludes_aborted
    | ok | notFound | conflict | failed =>
      dsimp only
      split
      next error failed =>
        refine concludes_poison ?_
        rw [Error.isFatal_wire, (built _).isOverflow_eq_false failed]
        rfl
      next value read => exact concludes_served ready value

theorem finish_concludes (ready : client.state = .ready) (built : ∀ status, (reader status).Built)
    (finished : client.finish memory opcode reader = some (result, ended, after)) :
    client.Concludes opcode result ended ∧ after.flag client.response.index = Wire.emptyFlag := by
  unfold finish at finished
  split at finished
  · contradiction
  next waited silent =>
    obtain ⟨rfl, rfl, rfl⟩ := Option.some.inj finished
    exact ⟨concludes_poison rfl, Poller.empty_of_settle_elapsed silent⟩
  next flag raised =>
    obtain ⟨rfl, rfl, rfl⟩ := Option.some.inj finished
    exact ⟨interpret_concludes ready built _ _, Memory.flag_setFlag_empty _ _⟩

/-! ## Calls -/

/-- What a call says, the channel it leaves and the regions behind it agree. -/
structure Agrees (client : ClientEnd) (memory : Memory) (opcode : Wire.Opcode) (message : Wire.Message)
    (result : Except Error α) (ended : ClientEnd) (after : Memory) : Prop where
  same : ended = { client with state := ended.state }
  fatal : ∀ error, result = .error error → (error.isFatal = true ↔ ended.isOpen = false)
  recoverable : ∀ error, result = .error error →
    (error.isFatal = false ↔ client.requestCapacity < message.size)
  served : ∀ value, result = .ok value → (ended.isOpen = true ↔ opcode ≠ .close)
  /-- A request that is too large is not raised, and no other cell is touched. -/
  unsent : client.requestCapacity < message.size → ended = client ∧
    (∀ index, after.flag index = memory.flag index) ∧
    ∀ index, index ≠ client.request.index → after.cell index = memory.cell index
  lowered : message.size ≤ client.requestCapacity → after.flag client.response.index = Wire.emptyFlag

theorem Concludes.agrees (concludes : client.Concludes opcode result ended)
    (fits : message.size ≤ client.requestCapacity)
    (lowered : after.flag client.response.index = Wire.emptyFlag) :
    client.Agrees memory opcode message result ended after where
  same := concludes.same
  fatal error told := by
    obtain ⟨fatal, shut⟩ := concludes.failed error told
    exact ⟨fun _ => shut, fun _ => fatal⟩
  recoverable error told := by
    rw [(concludes.failed error told).1]
    exact ⟨nofun, fun large => absurd fits (Nat.not_le.2 large)⟩
  served := concludes.served
  unsent large := absurd fits (Nat.not_le.2 large)
  lowered _ := lowered

theorem agrees_of_large (ready : client.state = .ready) (large : client.requestCapacity < message.size)
    (needed remaining : Nat) :
    client.Agrees memory opcode message
      (.error (.wire (.bufferOverflow needed remaining)) : Except Error α) client
      (client.request.write memory message).2 where
  same := rfl
  fatal _ told := by
    obtain rfl := Except.error.inj told
    rw [client.isOpen_iff.2 ready]
    exact ⟨nofun, nofun⟩
  recoverable _ told := by
    obtain rfl := Except.error.inj told
    exact ⟨fun _ => large, fun _ => rfl⟩
  served _ told := by contradiction
  unsent _ := ⟨rfl, client.request.flag_write memory message,
    fun _ other => Memory.cell_change_of_ne other.symm _⟩
  lowered fits := absurd fits (Nat.not_le.2 large)

theorem agrees_of_call (ready : client.state = .ready) (built : ∀ status, (reader status).Built)
    (returned : client.call memory opcode message peer reader = some (result, ended, after)) :
    client.Agrees memory opcode message result ended after := by
  rcases Nat.lt_or_ge client.requestCapacity message.size with large | fits
  · obtain ⟨needed, remaining, overflows⟩ := call_of_large ready memory large opcode peer reader
    rw [overflows] at returned
    obtain ⟨rfl, rfl, rfl⟩ := Option.some.inj returned
    exact agrees_of_large ready large needed remaining
  · obtain ⟨raised, finishes⟩ := call_of_fits ready memory fits opcode peer reader
    rw [finishes] at returned
    obtain ⟨concludes, lowered⟩ := finish_concludes ready built returned
    exact concludes.agrees fits lowered

/-! ## Channels that are shut -/

/-- What may come behind a call: the regions are written to by anybody, and the client calls again. -/
inductive Follows (client : ClientEnd) (memory : Memory) : ClientEnd → Memory → Prop
  | start : Follows client memory client memory
  | meanwhile {later : ClientEnd} {last : Memory} (before : Follows client memory later last)
      (written : Memory) : Follows client memory later written
  | call {α : Type} {later ended : ClientEnd} {last after : Memory} {opcode : Wire.Opcode}
      {message : Wire.Message} {peer : Memory → Memory} {reader : Wire.Status → Wire.Reader α}
      {result : Except Error α} (before : Follows client memory later last)
      (returned : later.call last opcode message peer reader = some (result, ended, after)) :
      Follows client memory ended after

/-- Every call is answered with the reason why the channel is shut, and touches neither the channel nor a byte
of the regions. -/
def Refuses (client : ClientEnd) (memory : Memory) : Prop :=
  ∃ error, (client.state = .closed ∧ error = .closed ∨ client.state = .poisoned ∧ error = .poisoned) ∧
    ∀ {β : Type} (opcode : Wire.Opcode) (message : Wire.Message) (peer : Memory → Memory)
      (reader : Wire.Status → Wire.Reader β),
      client.call memory opcode message peer reader = some (.error error, client, memory)

theorem refuses_of_shut (shut : client.isOpen = false) (memory : Memory) : client.Refuses memory := by
  cases state : client.state with
  | ready => exact absurd state (client.isOpen_eq_false_iff.1 shut)
  | closed =>
    have refused : client.refusal? = some .closed := by rw [refusal?, state]
    exact ⟨.closed, .inl ⟨state, rfl⟩, call_of_refusal refused memory⟩
  | poisoned =>
    have refused : client.refusal? = some .poisoned := by rw [refusal?, state]
    exact ⟨.poisoned, .inr ⟨state, rfl⟩, call_of_refusal refused memory⟩

theorem Follows.eq_of_shut {later : ClientEnd} {last : Memory} (follows : client.Follows memory later last)
    (shut : client.isOpen = false) : later = client := by
  induction follows with
  | start => rfl
  | meanwhile before written ih => exact ih
  | call before returned ih =>
    subst ih
    obtain ⟨error, _, refuses⟩ := refuses_of_shut shut _
    rw [refuses] at returned
    obtain ⟨_, rfl, _⟩ := Option.some.inj returned
    rfl

/-- The standing of a channel and the errors of its calls agree, whatever is sent, whatever the other end makes
of it and however the response is read. Once a channel is shut it stays so, and refuses all that follows. -/
theorem standing_agrees (ready : client.state = .ready) (built : ∀ status, (reader status).Built)
    (memory : Memory) (opcode : Wire.Opcode) (message : Wire.Message) (peer : Memory → Memory) :
    (client.requestCapacity < message.size → ∃ needed remaining written,
      client.call memory opcode message peer reader =
        some (.error (.wire (.bufferOverflow needed remaining)), client, written)) ∧
    ∀ result ended after, client.call memory opcode message peer reader = some (result, ended, after) →
      client.Agrees memory opcode message result ended after ∧
      (ended.isOpen = false → ∀ later last, ended.Follows after later last →
        later = ended ∧ later.Refuses last) := by
  constructor
  · intro large
    obtain ⟨needed, remaining, overflows⟩ := call_of_large ready memory large opcode peer reader
    exact ⟨needed, remaining, _, overflows⟩
  · intro result ended after returned
    refine ⟨agrees_of_call ready built returned, fun shut later last follows => ?_⟩
    obtain rfl := follows.eq_of_shut shut
    exact ⟨rfl, refuses_of_shut shut last⟩

/-- A channel over two regions of sixteen bytes. -/
def narrow : ClientEnd :=
  .connect ⟨⟨0, 16⟩, .anonymous 1⟩ ⟨⟨1, 16⟩, .anonymous 2⟩ ⟨.yield, 0, some (.ofMilliseconds 20)⟩

def misleading (memory : Memory) : Memory :=
  (narrow.response.write memory [.word 255]).2.setFlag 1 Wire.Status.ok.byte

theorem narrow_standing_agrees :
    narrow.state = .ready ∧
    narrow.call ⟨[.blank, .blank]⟩ .close [] misleading (fun _ => Wire.Reader.text) =
      some (.error (.wire (.truncated 255 7)), narrow.poison,
        (misleading ⟨[⟨Wire.Opcode.close.byte, []⟩, .blank]⟩).setFlag 1 Wire.emptyFlag) ∧
    narrow.poison.Refuses ⟨[]⟩ := by
  have ready : narrow.state = .ready := rfl
  let reader : Wire.Status → Wire.Reader String := fun _ => .text
  have built : ∀ status, (reader status).Built := fun _ => .text
  obtain ⟨_, agrees⟩ := standing_agrees ready built ⟨[.blank, .blank]⟩ .close [] misleading
  have returned : narrow.call ⟨[.blank, .blank]⟩ .close [] misleading (fun _ => Wire.Reader.text) =
      some (.error (.wire (.truncated 255 7)), narrow.poison,
        (misleading ⟨[⟨Wire.Opcode.close.byte, []⟩, .blank]⟩).setFlag 1 Wire.emptyFlag) := by rfl
  obtain ⟨_, stays⟩ := agrees _ _ _ returned
  exact ⟨ready, returned, (stays rfl _ _ (.meanwhile .start ⟨[]⟩)).2⟩

end ClientEnd

end SharedRecords.Channel

namespace SharedRecords.Manager

open Channel (ClientEnd)

theorem exchange_eq_call {α : Type} (manager : Manager) (client : ClientEnd) (opcode : Wire.Opcode)
    (message : Wire.Message) (reader : Wire.Status → Wire.Reader α) :
    (manager.exchange client opcode message reader).map (fun (result, ended, later) =>
      (result, ended, later.memory)) =
      client.call manager.memory opcode message
        (fun memory => (manager.setMemory memory).settle.memory) reader := by
  unfold exchange ClientEnd.call
  rcases client.submit manager.memory opcode message with ⟨_ | error, memory⟩
  · simp only [Option.map_map]
    rcases client.finish _ opcode reader with _ | ⟨result, ended, after⟩
    · rfl
    · rfl
  · rfl

end SharedRecords.Manager
