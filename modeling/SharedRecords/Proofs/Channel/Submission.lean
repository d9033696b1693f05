import SharedRecords.Channel.ClientEnd
import SharedRecords.Proofs.Region.Memory

/-!
Both halves of a call as the client sees them. A request is raised whole or not at all, and a response
that can be read leaves the channel open.
-/

namespace SharedRecords.Channel.ClientEnd

open Region (Memory Window)

variable {client : ClientEnd} {memory : Memory} {opcode : Wire.Opcode} {message : Wire.Message}

/-- A message was raised under an opcode, and nothing else was touched. -/
structure Raised (client : ClientEnd) (memory later : Memory) (opcode : Wire.Opcode)
    (message : Wire.Message) : Prop where
  next : later.next = memory.next
  raised : later.flag client.request.index = opcode.byte
  others : ∀ index, index ≠ client.request.index → later.flag index = memory.flag index
  payload : ∃ rest : Wire.Payload, client.request.payload later = message.bytes ++ rest

theorem submit_of_ready (ready : client.state = .ready) (memory : Memory) (opcode : Wire.Opcode)
    (message : Wire.Message) : client.submit memory opcode message =
      match client.request.write memory message with
      | (some error, written) => (some (.wire error), written)
      | (none, written) => (none, written.setFlag client.request.index opcode.byte) := by
  rcases written : client.request.write memory message with ⟨_ | error, later⟩
  all_goals simp [submit, refusal?, ready, written]

theorem next_submit (client : ClientEnd) (memory : Memory) (opcode : Wire.Opcode) (message : Wire.Message) :
    (client.submit memory opcode message).2.next = memory.next := by
  have next := Window.next_write client.request.toWindow memory message
  unfold submit
  cases client.refusal? with
  | some error => rfl
  | none =>
    generalize client.request.write memory message = attempt at next
    obtain ⟨failure, written⟩ := attempt
    cases failure with
    | some error => exact next
    | none => exact (Memory.next_setFlag _ _ _).trans next

theorem next_finish {α : Type} {later : Memory} {reader : Wire.Status → Wire.Reader α}
    {result : Except Error α} {ended : ClientEnd}
    (finished : client.finish memory opcode reader = some (result, ended, later)) :
    later.next = memory.next := by
  unfold finish at finished
  split at finished
  · contradiction
  · obtain ⟨_, _, rfl⟩ := Option.some.inj finished
    rfl
  · obtain ⟨_, _, rfl⟩ := Option.some.inj finished
    exact Memory.next_setFlag _ _ _

theorem submit_fits (ready : client.state = .ready) (inside : client.request.index < memory.next)
    (fits : message.size ≤ client.requestCapacity) (opcode : Wire.Opcode) :
    ∃ later, client.submit memory opcode message = (none, later) ∧
      client.Raised memory later opcode message := by
  obtain ⟨written, attempt, next, flags, payload⟩ := Window.write_of_size_le inside fits
  rw [submit_of_ready ready, attempt]
  refine ⟨_, rfl, ?_⟩
  constructor
  · exact (Memory.next_setFlag _ _ _).trans next
  · apply Memory.flag_setFlag
    rw [next]
    exact inside
  · intro index other
    rw [Memory.flag_setFlag_of_ne other.symm]
    exact flags index
  · rw [Window.payload_setFlag]
    exact payload

theorem submit_overflows (ready : client.state = .ready) (memory : Memory)
    (large : client.requestCapacity < message.size) (opcode : Wire.Opcode) :
    ∃ needed remaining later,
      client.submit memory opcode message = (some (.wire (.bufferOverflow needed remaining)), later) ∧
        later.next = memory.next ∧ ∀ index, later.flag index = memory.flag index := by
  obtain ⟨needed, remaining, written, attempt, next, flags⟩ :=
    Window.write_of_lt_size client.request.toWindow memory large
  rw [submit_of_ready ready, attempt]
  exact ⟨needed, remaining, written, rfl, next, flags⟩

theorem interpret_status {α : Type} {status : Wire.Status} {payload : Wire.Payload}
    {reader : Wire.Status → Wire.Reader α} {value : α} (known : status ≠ .aborted)
    (stays : opcode ≠ .close) (read : (reader status).run payload = .ok value) :
    client.interpret opcode status.byte payload reader = (.ok value, client) := by
  unfold interpret
  rw [Wire.Status.ofByte_byte]
  cases status with
  | aborted => exact absurd rfl known
  | ok | notFound | conflict | failed =>
    dsimp only
    rw [read]
    dsimp only
    rw [if_neg stays]

theorem finish_status {α : Type} {status : Wire.Status} {reader : Wire.Status → Wire.Reader α} {value : α}
    (raised : memory.flag client.response.index = status.byte) (known : status ≠ .aborted)
    (stays : opcode ≠ .close) (read : (reader status).run (client.response.payload memory) = .ok value) :
    client.finish memory opcode reader =
      some (.ok value, client, memory.setFlag client.response.index Wire.emptyFlag) := by
  unfold finish Poller.settle
  rw [raised, if_pos (bne_iff_ne.2 status.byte_ne_empty)]
  dsimp only
  rw [interpret_status known stays read]

end SharedRecords.Channel.ClientEnd
