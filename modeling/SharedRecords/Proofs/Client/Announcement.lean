import SharedRecords.Client.Publication
import SharedRecords.Proofs.Region.Extent
import SharedRecords.Proofs.Region.Memory
import SharedRecords.Proofs.Wire.Length

/-!
Publishing a schema. Once its region is allocated, a schema is posted there if the region has room for it;
else the region is given back.
-/

namespace SharedRecords

theorem Wire.Status.ofByte?_byte (status : Status) : ofByte? status.byte = some status := by
  cases status <;> rfl

theorem Wire.Status.byte_ne_schema (status : Status) : status.byte ≠ Wire.schemaFlag := by
  cases status <;> decide

/-! ## Posting -/

namespace Channel.Control

variable {memory : Region.Memory} {message : Wire.Message} {index : Nat}

theorem next_post (control : Control) (memory : Region.Memory) (flag : UInt8) (message : Wire.Message) :
    (control.post memory flag message).2.next = memory.next := by
  have next := control.mapping.next_write memory message
  unfold post
  generalize control.mapping.write memory message = attempt at next
  obtain ⟨_ | error, written⟩ := attempt
  · exact (Region.Memory.next_setFlag _ _ _).trans next
  · exact next

theorem cell_post (control : Control) (apart : control.mapping.index ≠ index) (memory : Region.Memory)
    (flag : UInt8) (message : Wire.Message) : (control.post memory flag message).2.cell index = memory.cell index := by
  have wrote : (control.mapping.write memory message).2.cell index = memory.cell index :=
    Region.Memory.cell_change_of_ne apart _
  unfold post
  generalize control.mapping.write memory message = attempt at wrote
  obtain ⟨_ | error, written⟩ := attempt
  · exact (Region.Memory.cell_change_of_ne apart _).trans wrote
  · exact wrote

theorem post_of_size_le (control : Control) (inside : control.mapping.index < memory.next)
    (fits : message.size ≤ control.mapping.room) (flag : UInt8) :
    ∃ later, control.post memory flag message = (none, later) ∧
      later.flag control.mapping.index = flag ∧
      ∃ rest : Wire.Payload, control.mapping.payload later = message.bytes ++ rest := by
  obtain ⟨written, attempt, next, _, payload⟩ := Region.Window.write_of_size_le inside fits
  unfold post
  rw [attempt]
  refine ⟨_, rfl, Region.Memory.flag_setFlag (next ▸ inside) flag, ?_⟩
  rw [Region.Window.payload_setFlag]
  exact payload

theorem post_of_lt_size (control : Control) (large : control.mapping.room < message.size) (memory : Region.Memory)
    (flag : UInt8) :
    ∃ needed remaining later, control.post memory flag message = (some (.bufferOverflow needed remaining), later) := by
  obtain ⟨needed, remaining, written, attempt, _, _⟩ :=
    Region.Window.write_of_lt_size control.mapping.toWindow memory large
  unfold post
  rw [attempt]
  exact ⟨needed, remaining, written, rfl⟩

end Channel.Control

namespace Client

open Region (Pool Memory Window)

variable {pool mapped later : Pool} {capacity : Nat} {schema : Schema} {mapping : Region.Mapping}
  {publication : Publication}

namespace Publication

def window (publication : Publication) : Window := publication.control.mapping.toWindow

def heard : Wire.Status → Except Error Unit
  | .ok => .ok ()
  | .conflict => .error .conflict
  | .notFound => .error .notFound
  | .failed | .aborted => .error (.failed "schema rejected by server")

/-- The schema stands in the region, and nobody has answered yet. -/
structure Waits (publication : Publication) (memory : Memory) (schema : Schema) : Prop where
  inside : publication.window.index < memory.next
  posted : memory.flag publication.window.index = Wire.schemaFlag
  payload : ∃ rest : Wire.Payload,
    publication.window.payload memory = (Wire.schemaChunks schema).bytes ++ rest
  countable : (Wire.schemaChunks schema).size < UInt64.size

/-- The region has been answered with this status. -/
structure Told (publication : Publication) (memory : Memory) (status : Wire.Status) : Prop where
  inside : publication.window.index < memory.next
  answered : memory.flag publication.window.index = status.byte

variable {memory : Memory} {status : Wire.Status}

theorem Waits.acknowledgement? (waits : publication.Waits memory schema) :
    publication.acknowledgement? memory = none := by
  unfold Publication.acknowledgement? Channel.Control.status? Channel.Control.flag
  rw [show memory.flag publication.control.mapping.index = _ from waits.posted]
  rfl

theorem Told.acknowledgement? (told : publication.Told memory status) :
    publication.acknowledgement? memory = some (heard status) := by
  have answered : memory.flag publication.control.mapping.index = status.byte := told.answered
  unfold Publication.acknowledgement? Channel.Control.status? Channel.Control.flag
  rw [answered, Wire.Status.ofByte?_byte]
  cases status with
  | ok | notFound | conflict | failed | aborted => rfl

theorem Waits.reads (waits : publication.Waits memory schema) :
    Wire.Reader.schema.run (publication.window.payload memory) = .ok schema := by
  obtain ⟨rest, payload⟩ := waits.payload
  rw [payload]
  exact (Wire.Readable.schema.spelled schema waits.countable).run rest

theorem Waits.of_cell {other : Memory} (waits : publication.Waits memory schema)
    (inside : publication.window.index < other.next)
    (same : other.cell publication.window.index = memory.cell publication.window.index) :
    publication.Waits other schema := by
  obtain ⟨_, posted, payload, countable⟩ := waits
  refine ⟨inside, ?_, ?_, countable⟩
  · rw [Memory.flag, same]
    exact posted
  · rw [Window.payload, same]
    exact payload

theorem Told.of_cell {other : Memory} (told : publication.Told memory status)
    (inside : publication.window.index < other.next)
    (same : other.cell publication.window.index = memory.cell publication.window.index) :
    publication.Told other status := by
  refine ⟨inside, ?_⟩
  rw [Memory.flag, same]
  exact told.answered

end Publication

/-- What a schema that was published leaves behind. -/
structure Announced (pool later : Pool) (schema : Schema) (capacity : Nat) (publication : Publication) : Prop where
  window : publication.window = ⟨pool.memory.next, capacity⟩
  located : later.locate publication.handle = .ok publication.window
  sized : later.Sized publication.window
  waits : publication.Waits later.memory schema
  next : later.memory.next = pool.memory.next + 1
  cells : ∀ index, index < pool.memory.next → later.memory.cell index = pool.memory.cell index

/-- What a schema that did not fit leaves behind: its region is found no more. -/
structure Withdrawn (pool later : Pool) (handle : Region.Handle) : Prop where
  released : later.locate handle = .error (.unknownRegion handle)
  next : later.memory.next = pool.memory.next + 1
  cells : ∀ index, index < pool.memory.next → later.memory.cell index = pool.memory.cell index

theorem publish_allocated (sound : pool.Sound) (allocated : pool.allocateMapped capacity = (.ok mapping, mapped))
    (schema : Schema) :
    (Wire.Shape.schemaLength schema ≤ capacity - Region.headerLength ∧
      ∃ later, publish pool schema capacity = (.ok ⟨⟨mapping⟩⟩, later) ∧
        Announced pool later schema capacity ⟨⟨mapping⟩⟩) ∨
    (capacity - Region.headerLength < Wire.Shape.schemaLength schema ∧
      ∃ needed remaining memory, publish pool schema capacity =
          (.error (.wire (.bufferOverflow needed remaining)),
            ((mapped.setMemory memory).release mapping.handle).2) ∧
        ((mapped.setMemory memory).release mapping.handle).1 = .ok () ∧
        Withdrawn pool ((mapped.setMemory memory).release mapping.handle).2 mapping.handle) := by
  obtain ⟨window, granted⟩ := Pool.allocateMapped_granted sound allocated
  have next : mapped.memory.next = pool.memory.next + 1 := by rw [granted.memory, Memory.next_add]
  have index : mapping.index = pool.memory.next := congrArg Window.index window
  have room : mapping.room = capacity - Region.headerLength := by
    unfold Window.room
    rw [window]
  have inside : mapping.index < mapped.memory.next := by
    rw [index, next]
    exact Nat.lt_succ_self _
  have size := Wire.Message.size_schemaChunks schema
  have posted_next := (Channel.Control.mk mapping).next_post mapped.memory Wire.schemaFlag (Wire.schemaChunks schema)
  -- the region is the last one, so posting to it leaves all others alone
  have others : ∀ place, place < pool.memory.next →
      ((Channel.Control.mk mapping).post mapped.memory Wire.schemaFlag (Wire.schemaChunks schema)).2.cell place =
        pool.memory.cell place := by
    intro place old
    have apart : mapping.index ≠ place := index ▸ Nat.ne_of_gt old
    rw [Channel.Control.cell_post ⟨mapping⟩ apart, granted.memory, Memory.cell_add_of_lt old]
  unfold publish
  rw [allocated]
  dsimp only
  by_cases fits : Wire.Shape.schemaLength schema ≤ capacity - Region.headerLength
  · have roomy : (Wire.schemaChunks schema).size ≤ mapping.room := by
      rw [size, room]
      exact fits
    obtain ⟨later, posted, flag, payload⟩ :=
      Channel.Control.post_of_size_le ⟨mapping⟩ inside roomy Wire.schemaFlag
    rw [posted] at posted_next others ⊢
    refine .inl ⟨fits, _, rfl, ?_⟩
    constructor
    · exact window
    · rw [Pool.locate_setMemory]
      exact granted.located.trans (congrArg Except.ok window.symm)
    · have sized := Pool.allocateMapped_sized sound capacity
      rw [allocated, ← window] at sized
      exact sized.setMemory later
    · refine ⟨?_, flag, payload, ?_⟩
      · show mapping.index < later.next
        rw [posted_next]
        exact inside
      · rw [size]
        exact Nat.lt_of_le_of_lt (Nat.le_trans fits (Nat.sub_le _ _)) granted.countable
    · exact posted_next.trans next
    · exact others
  · have large := Nat.lt_of_not_le fits
    have tight : mapping.room < (Wire.schemaChunks schema).size := by
      rw [size, room]
      exact large
    obtain ⟨needed, remaining, later, posted⟩ :=
      Channel.Control.post_of_lt_size ⟨mapping⟩ tight mapped.memory Wire.schemaFlag
    rw [posted] at posted_next others ⊢
    have located : (mapped.setMemory later).locate mapping.handle = .ok ⟨pool.memory.next, capacity⟩ := granted.located
    obtain ⟨released, gone⟩ := Pool.release_of_located located
    refine .inr ⟨large, needed, remaining, later, rfl, released, gone, ?_, ?_⟩
    · rw [Pool.memory_release]
      exact posted_next.trans next
    · rw [Pool.memory_release]
      exact others

theorem publish_announced (sound : pool.Sound) (published : (publish pool schema capacity).1 = .ok publication) :
    Announced pool (publish pool schema capacity).2 schema capacity publication := by
  rcases allocated : pool.allocateMapped capacity with ⟨error | mapping, mapped⟩
  · unfold publish at published
    rw [allocated] at published
    cases published
  · obtain ⟨_, later, posted, announced⟩ | ⟨_, _, _, _, refused, _⟩ := publish_allocated sound allocated schema
    · rw [posted] at published ⊢
      obtain rfl := Except.ok.inj published
      exact announced
    · rw [refused] at published
      cases published

/-! ## What publishing leaves alone -/

/-- The pool after publishing is the one after allocating, with a message posted and perhaps without the
region. -/
theorem publish_pool (pool : Pool) (schema : Schema) (capacity : Nat) :
    (publish pool schema capacity).2 = (pool.allocateMapped capacity).2 ∨
      ∃ mapping flag message, (pool.allocateMapped capacity).1 = .ok mapping ∧
        let posted := (pool.allocateMapped capacity).2.setMemory
          ((Channel.Control.mk mapping).post (pool.allocateMapped capacity).2.memory flag message).2
        (publish pool schema capacity).2 = posted ∨
          (publish pool schema capacity).2 = (posted.release mapping.handle).2 := by
  unfold publish
  rcases pool.allocateMapped capacity with ⟨error | mapping, mapped⟩
  · exact .inl rfl
  · refine .inr ⟨mapping, Wire.schemaFlag, Wire.schemaChunks schema, rfl, ?_⟩
    dsimp only
    rcases (Channel.Control.mk mapping).post mapped.memory Wire.schemaFlag (Wire.schemaChunks schema) with
      ⟨_ | error, later⟩
    · exact .inl rfl
    · exact .inr rfl

theorem next_publish (pool : Pool) (schema : Schema) (capacity : Nat) :
    (publish pool schema capacity).2.memory.next = (pool.allocateMapped capacity).2.memory.next := by
  obtain same | ⟨mapping, flag, message, _, same | same⟩ := publish_pool pool schema capacity
  · rw [same]
  · rw [same]
    exact Channel.Control.next_post _ _ _ _
  · rw [same, Pool.memory_release]
    exact Channel.Control.next_post _ _ _ _

theorem cell_publish (sound : pool.Sound) {index : Nat} (inside : index < pool.memory.next) (schema : Schema)
    (capacity : Nat) : (publish pool schema capacity).2.memory.cell index = pool.memory.cell index := by
  have allocated : (pool.allocateMapped capacity).2.memory.cell index = pool.memory.cell index := by
    rw [Pool.memory_allocateMapped]
    exact Pool.cell_allocate inside capacity
  have posted {mapping : Region.Mapping} (mapped : (pool.allocateMapped capacity).1 = .ok mapping) (flag : UInt8)
      (message : Wire.Message) :
      ((Channel.Control.mk mapping).post (pool.allocateMapped capacity).2.memory flag message).2.cell index =
        pool.memory.cell index := by
    obtain ⟨window, _⟩ := Pool.allocateMapped_granted sound (Prod.ext mapped rfl)
    have apart : mapping.index ≠ index := by
      rw [congrArg Window.index window]
      exact Nat.ne_of_gt inside
    rw [Channel.Control.cell_post ⟨mapping⟩ apart]
    exact allocated
  obtain same | ⟨mapping, flag, message, mapped, same | same⟩ := publish_pool pool schema capacity
  · rw [same]
    exact allocated
  · rw [same]
    exact posted mapped flag message
  · rw [same, Pool.memory_release]
    exact posted mapped flag message

theorem publish_sound (sound : pool.Sound) (schema : Schema) (capacity : Nat) :
    (publish pool schema capacity).2.Sound := by
  have allocated := sound.allocateMapped capacity
  obtain same | ⟨mapping, flag, message, _, same | same⟩ := publish_pool pool schema capacity
  · rw [same]
    exact allocated
  · rw [same]
    exact allocated.setMemory (Channel.Control.next_post _ _ _ _)
  · rw [same]
    exact (allocated.setMemory (Channel.Control.next_post _ _ _ _)).release _

theorem publish_sized {window : Window} (sized : pool.Sized window) (inside : window.index < pool.memory.next)
    (schema : Schema) (capacity : Nat) : (publish pool schema capacity).2.Sized window := by
  have allocated := sized.allocateMapped inside capacity
  obtain same | ⟨mapping, flag, message, _, same | same⟩ := publish_pool pool schema capacity
  · rw [same]
    exact allocated
  · rw [same]
    exact allocated.setMemory _
  · rw [same]
    exact (allocated.setMemory _).release _

end Client

end SharedRecords
