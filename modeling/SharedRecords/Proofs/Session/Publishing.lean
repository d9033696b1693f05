import SharedRecords.Proofs.Region.Memory
import SharedRecords.Session.Publish

/-!
What publishing leaves in shared memory. An answer that fits is published as it is, and one that does
not is excused by a text that always fits where a request had room.
-/

namespace SharedRecords

open Region (Memory Window)

namespace Channel

/-- Both regions of a channel are there, and neither is the other. -/
structure ServerEnd.Spans (server : ServerEnd) (memory : Memory) : Prop where
  apart : server.request.index ≠ server.response.index
  request_inside : server.request.index < memory.next
  response_inside : server.response.index < memory.next

/-- A message was published under a status, and nothing else was touched. -/
structure ServerEnd.Published (server : ServerEnd) (memory later : Memory) (status : Wire.Status)
    (message : Wire.Message) : Prop where
  next : later.next = memory.next
  lowered : later.flag server.request.index = Wire.emptyFlag
  raised : later.flag server.response.index = status.byte
  others : ∀ index, index ≠ server.request.index → index ≠ server.response.index →
    later.flag index = memory.flag index
  payload : ∃ rest : Wire.Payload, server.response.payload later = message.bytes ++ rest

namespace ServerEnd

variable {server : ServerEnd} {memory : Memory} {status : Wire.Status} {message : Wire.Message}

theorem Spans.of_next {later : Memory} (spans : server.Spans memory) (next : later.next = memory.next) :
    server.Spans later where
  apart := spans.apart
  request_inside := next ▸ spans.request_inside
  response_inside := next ▸ spans.response_inside

theorem flag_publish (inside : server.response.index < memory.next) (status : Wire.Status) :
    (server.publish memory status).flag server.response.index = status.byte := by
  unfold publish
  apply Memory.flag_setFlag
  rw [Memory.next_setFlag]
  exact inside

theorem respond_raised {later : Memory} (inside : server.response.index < memory.next)
    (responded : server.respond memory status message = (none, later)) :
    later.flag server.response.index = status.byte := by
  have next := Window.next_write server.response.toWindow memory message
  unfold respond at responded
  rcases attempt : server.response.write memory message with ⟨_ | error, written⟩
  · rw [attempt] at responded next
    obtain ⟨_, rfl⟩ := Prod.mk.inj responded
    exact flag_publish (next ▸ inside) status
  · rw [attempt] at responded
    nomatch (Prod.mk.inj responded).1

theorem publish_published {written : Memory} (spans : server.Spans written)
    (next : written.next = memory.next) (flags : ∀ index, written.flag index = memory.flag index)
    (payload : ∃ rest : Wire.Payload, server.response.payload written = message.bytes ++ rest) :
    server.Published memory (server.publish written status) status message where
  next := by
    unfold publish
    rw [Memory.next_setFlag, Memory.next_setFlag, next]
  lowered := by
    unfold publish
    rw [Memory.flag_setFlag_of_ne spans.apart.symm, Memory.flag_setFlag spans.request_inside]
  raised := flag_publish spans.response_inside status
  others := by
    intro index request response
    unfold publish
    rw [Memory.flag_setFlag_of_ne response.symm, Memory.flag_setFlag_of_ne request.symm, flags]
  payload := by
    unfold publish
    rw [Window.payload_setFlag, Window.payload_setFlag]
    exact payload

theorem respond_fits (spans : server.Spans memory) (fits : message.size ≤ server.replyCapacity)
    (status : Wire.Status) :
    ∃ later, server.respond memory status message = (none, later) ∧
      server.Published memory later status message := by
  obtain ⟨written, attempt, next, flags, payload⟩ := Window.write_of_size_le spans.response_inside fits
  unfold respond
  rw [attempt]
  exact ⟨_, rfl, publish_published (spans.of_next next) next flags payload⟩

theorem respond_overflows (memory : Memory) (large : server.replyCapacity < message.size)
    (status : Wire.Status) :
    ∃ error later, server.respond memory status message = (some error, later) ∧
      later.next = memory.next ∧ ∀ index, later.flag index = memory.flag index := by
  obtain ⟨needed, remaining, written, attempt, next, flags⟩ :=
    Window.write_of_lt_size server.response.toWindow memory large
  unfold respond
  rw [attempt]
  exact ⟨_, written, rfl, next, flags⟩

theorem respond_failure (server : ServerEnd) (memory : Memory) (status : Wire.Status) (message : Wire.Message) :
    (server.respond memory status message).1 = (message.fit server.replyCapacity).2 := by
  have attempt : (server.response.write memory message).1 = (message.fit server.replyCapacity).2 := rfl
  rw [← attempt]
  unfold respond
  rcases server.response.write memory message with ⟨_ | error, written⟩ <;> rfl

end ServerEnd

end Channel

namespace Session

open Channel (ServerEnd)

theorem utf8ByteSize_ofList (characters : List Char) :
    (String.ofList characters).utf8ByteSize = Number.total (characters.map Char.utf8Size) := by
  induction characters with
  | nil => rfl
  | cons first rest ih =>
    rw [← List.singleton_append, String.ofList_append, String.utf8ByteSize_append, ih, List.map_append,
      Number.total_append]
    congr 1
    exact String.utf8ByteSize_singleton

theorem overflowNote_size {capacity : Nat} (roomy : Wire.wordLength ≤ capacity) (status : Wire.Status)
    (error : Wire.Error) : Wire.Message.size [.text (overflowNote status error capacity)] ≤ capacity := by
  simp only [Wire.Message.size, Wire.Chunk.size]
  unfold overflowNote
  rw [utf8ByteSize_ofList]
  have short := cut_size (capacity - Wire.wordLength) (overflowText status error).toList
  omega

/-- What is said for an answer: the answer if it has room, and else that it has none. -/
inductive Says (capacity : Nat) (status : Wire.Status) (message : Wire.Message) :
    Wire.Status → Wire.Message → Prop where
  | answer (fits : message.size ≤ capacity) : Says capacity status message status message
  | excuse (large : capacity < message.size) (reason : String)
      (fits : Wire.Message.size [.text reason] ≤ capacity) :
      Says capacity status message .failed [.text reason]

theorem publish_fits {server : ServerEnd} {memory : Memory} {message : Wire.Message} (spans : server.Spans memory)
    (fits : message.size ≤ server.replyCapacity) (status : Wire.Status) :
    ∃ later, publish server memory status message = (.ok status, later) ∧
      server.Published memory later status message := by
  obtain ⟨later, responded, published⟩ := ServerEnd.respond_fits spans fits status
  unfold publish
  rw [responded]
  exact ⟨later, rfl, published⟩

theorem publish_excused {server : ServerEnd} {memory : Memory} {message : Wire.Message} (spans : server.Spans memory)
    (roomy : Wire.wordLength ≤ server.replyCapacity) (large : server.replyCapacity < message.size)
    (status : Wire.Status) :
    ∃ error later, (message.fit server.replyCapacity).2 = some error ∧
      publish server memory status message = (.ok .failed, later) ∧
        server.Published memory later .failed [.text (overflowNote status error server.replyCapacity)] := by
  obtain ⟨error, written, overflowed, next, flags⟩ := ServerEnd.respond_overflows memory large status
  have met := server.respond_failure memory status message
  rw [overflowed] at met
  have short := overflowNote_size roomy status error
  obtain ⟨later, responded, published⟩ := ServerEnd.respond_fits (spans.of_next next) short .failed
  refine ⟨error, later, met.symm, ?_, ?_⟩
  · unfold publish
    rw [overflowed]
    dsimp only
    rw [responded]
  · exact {
      next := published.next.trans next
      lowered := published.lowered
      raised := published.raised
      others := fun index request response => (published.others index request response).trans (flags index)
      payload := published.payload }

theorem publish_says {server : ServerEnd} {memory : Memory} (spans : server.Spans memory)
    (roomy : Wire.wordLength ≤ server.replyCapacity) (status : Wire.Status) (message : Wire.Message) :
    ∃ told said later, publish server memory status message = (.ok told, later) ∧
      server.Published memory later told said ∧ Says server.replyCapacity status message told said := by
  by_cases fits : message.size ≤ server.replyCapacity
  · obtain ⟨later, published, leaves⟩ := publish_fits spans fits status
    exact ⟨status, message, later, published, leaves, .answer fits⟩
  · have large := Nat.lt_of_not_le fits
    obtain ⟨error, later, _, published, leaves⟩ := publish_excused spans roomy large status
    exact ⟨.failed, _, later, published, leaves, .excuse large _ (overflowNote_size roomy status error)⟩

theorem publish_overflows {server : ServerEnd} {memory : Memory} {message : Wire.Message}
    (tight : server.replyCapacity < Wire.wordLength) (large : server.replyCapacity < message.size)
    (status : Wire.Status) :
    ∃ later, publish server memory status message = (.error (.responseOverflow server.replyCapacity), later) ∧
      later.next = memory.next ∧ ∀ index, later.flag index = memory.flag index := by
  obtain ⟨error, written, overflowed, next, flags⟩ := ServerEnd.respond_overflows memory large status
  have long : server.replyCapacity <
      Wire.Message.size [.text (overflowNote status error server.replyCapacity)] := by
    simp only [Wire.Message.size, Wire.Chunk.size]
    omega
  obtain ⟨_, last, again, next_last, flags_last⟩ := ServerEnd.respond_overflows written long .failed
  unfold publish
  rw [overflowed]
  dsimp only
  rw [again]
  exact ⟨last, rfl, next_last.trans next, fun index => (flags_last index).trans (flags index)⟩

theorem publish_cases {server : ServerEnd} {memory : Memory} (spans : server.Spans memory)
    (status : Wire.Status) (message : Wire.Message) :
    (∃ told said later, publish server memory status message = (.ok told, later) ∧
      server.Published memory later told said ∧ Says server.replyCapacity status message told said) ∨
    (server.replyCapacity < Wire.wordLength ∧ server.replyCapacity < message.size ∧ ∃ later,
      publish server memory status message = (.error (.responseOverflow server.replyCapacity), later) ∧
        later.next = memory.next ∧ ∀ index, later.flag index = memory.flag index) := by
  by_cases roomy : Wire.wordLength ≤ server.replyCapacity
  · have spoken := publish_says spans roomy status message
    exact .inl spoken
  · have tight := Nat.lt_of_not_le roomy
    by_cases fits : message.size ≤ server.replyCapacity
    · obtain ⟨later, published, leaves⟩ := publish_fits spans fits status
      exact .inl ⟨status, message, later, published, leaves, .answer fits⟩
    · have large := Nat.lt_of_not_le fits
      exact .inr ⟨tight, large, publish_overflows tight large status⟩

end Session

end SharedRecords
