import SharedRecords.Proofs.Manager.Agreement
import SharedRecords.Proofs.Manager.Installing

/-!
Schemas that are published, processed and installed, in any order. One installation succeeds at most, and
its schema stays; a publication waits until its region is processed, and then tells what came of it.
-/

namespace SharedRecords.Manager

open Client (Publication)

/-! ## Calls in a row -/

inductive Call where
  | publish (schema : Schema) (capacity : Nat)
  | install (schema : Schema)
  | process (handle : Region.Handle)

def perform (manager : Manager) : Call → Manager
  | .publish schema capacity => (manager.publish schema capacity).2
  | .install schema => (manager.installSchema schema).2
  | .process handle => (manager.installFromRegion handle).2

/-- A call and the manager it was made of. -/
structure Entry where
  before : Manager
  call : Call

namespace Entry

def Succeeds (entry : Entry) : Prop :=
  match entry.call with
  | .publish .. => False
  | .install schema => (entry.before.installSchema schema).1 = .ok ()
  | .process handle => (entry.before.installFromRegion handle).1 = .ok ()

def schema? (entry : Entry) : Option Schema :=
  match entry.call with
  | .publish .. => none
  | .install schema => some schema
  | .process handle => entry.before.posted? handle

def Publishes (entry : Entry) (schema : Schema) (publication : Publication) : Prop :=
  ∃ capacity, entry.call = .publish schema capacity ∧ (entry.before.publish schema capacity).1 = .ok publication

def Processes (entry : Entry) (index : Nat) : Prop :=
  ∃ handle mapping pool, entry.call = .process handle ∧ entry.before.pool.map handle = (.ok mapping, pool) ∧
    mapping.index = index

end Entry

/-- What others may do between two calls: anything to the store, the sessions and other regions, as long as
they install no schema, take no cell away and leave the regions of publications as they are. -/
structure Respects (manager later : Manager) (history : List Entry) : Prop where
  schema : later.schema = manager.schema
  sound : later.pool.Sound
  next : manager.memory.next ≤ later.memory.next
  cell : ∀ entry ∈ history, ∀ schema publication, entry.Publishes schema publication →
    later.memory.cell publication.window.index = manager.memory.cell publication.window.index
  sized : ∀ entry ∈ history, ∀ schema publication, entry.Publishes schema publication →
    later.pool.Sized publication.window

/-- Calls in a row, with whatever others do between them. The latest call comes first. -/
inductive Dealings (start : Manager) : List Entry → Manager → Prop where
  | start : Dealings start [] start
  | call {history : List Entry} {manager : Manager} (dealings : Dealings start history manager) (call : Call) :
      Dealings start (⟨manager, call⟩ :: history) (manager.perform call)
  | meanwhile {history : List Entry} {manager later : Manager} (dealings : Dealings start history manager)
      (respects : manager.Respects later history) : Dealings start history later

/-! ## One call -/

variable {manager later start : Manager} {history : List Entry} {call : Call} {schema : Schema}
  {publication : Publication} {index : Nat}

theorem process_pool (manager : Manager) (handle : Region.Handle) :
    ∃ memory, (manager.perform (.process handle)).pool = (manager.pool.map handle).2.setMemory memory ∧
      (memory = manager.memory ∨ ∃ mapping pool, manager.pool.map handle = (.ok mapping, pool) ∧
        ∃ status : Wire.Status, memory = manager.memory.setFlag mapping.index status.byte) := by
  have same := manager.pool.memory_map handle
  unfold perform installFromRegion
  dsimp only
  generalize manager.pool.map handle = attempt at same
  obtain ⟨error | mapping, pool⟩ := attempt
  · exact ⟨manager.memory, congrArg (fun memory => pool.setMemory memory) same, .inl rfl⟩
  · have processes := (manager.setPool pool).installPosted_processes ⟨mapping⟩
    obtain ⟨memory, later, unchanged | ⟨status, raised⟩⟩ := processes.raises
    · exact ⟨memory, later, .inl (unchanged.trans same)⟩
    · refine ⟨memory, later, .inr ⟨mapping, pool, rfl, status, ?_⟩⟩
      rw [raised]
      exact congrArg (fun before : Region.Memory => before.setFlag mapping.index status.byte) same

theorem install_pool (manager : Manager) (schema : Schema) :
    (manager.perform (.install schema)).pool = manager.pool :=
  (manager.installSchema_installs schema).same_pool

theorem perform_schema {held : Schema} (before : manager.schema = some held) (call : Call) :
    (manager.perform call).schema = some held := by
  cases call with
  | publish schema capacity => exact before
  | install schema => exact (manager.installSchema_installs schema).keeps before
  | process handle =>
    unfold perform installFromRegion
    dsimp only
    rcases manager.pool.map handle with ⟨error | mapping, pool⟩
    · exact before
    · exact ((manager.setPool pool).installPosted_processes ⟨mapping⟩).keeps before

theorem perform_sound (sound : manager.pool.Sound) (call : Call) : (manager.perform call).pool.Sound := by
  cases call with
  | publish schema capacity => exact Client.publish_sound sound schema capacity
  | install schema =>
    rw [install_pool]
    exact sound
  | process handle =>
    obtain ⟨memory, pool, kept⟩ := manager.process_pool handle
    rw [pool]
    refine (sound.map handle).setMemory ?_
    rw [Region.Pool.memory_map]
    rcases kept with rfl | ⟨_, _, _, _, rfl⟩
    · rfl
    · exact Region.Memory.next_setFlag _ _ _

theorem perform_sized {window : Region.Window} (sized : manager.pool.Sized window)
    (inside : window.index < manager.memory.next) (call : Call) : (manager.perform call).pool.Sized window := by
  cases call with
  | publish schema capacity => exact Client.publish_sized sized inside schema capacity
  | install schema =>
    rw [install_pool]
    exact sized
  | process handle =>
    obtain ⟨memory, pool, _⟩ := manager.process_pool handle
    rw [pool]
    exact (sized.map handle).setMemory memory

theorem perform_next (manager : Manager) (call : Call) : manager.memory.next ≤ (manager.perform call).memory.next := by
  cases call with
  | publish schema capacity =>
    show _ ≤ (Client.publish manager.pool schema capacity).2.memory.next
    rw [Client.next_publish, Region.Pool.memory_allocateMapped]
    exact Region.Pool.next_allocate _ _
  | install schema =>
    refine Nat.le_of_eq ?_
    unfold memory Session.Resources.memory
    rw [show (manager.perform (.install schema)).resources.pool = _ from install_pool manager schema]
    rfl
  | process handle =>
    obtain ⟨memory, pool, kept⟩ := manager.process_pool handle
    refine Nat.le_of_eq ?_
    show _ = (manager.perform (.process handle)).pool.memory.next
    rw [pool]
    rcases kept with rfl | ⟨_, _, _, _, rfl⟩
    · rfl
    · exact (Region.Memory.next_setFlag _ _ _).symm

theorem perform_cell (sound : manager.pool.Sound) (inside : index < manager.memory.next)
    (apart : ¬ Entry.Processes ⟨manager, call⟩ index) :
    (manager.perform call).memory.cell index = manager.memory.cell index := by
  cases call with
  | publish schema capacity => exact Client.cell_publish sound inside schema capacity
  | install schema =>
    have pool := congrArg (·.memory.cell index) (install_pool manager schema)
    exact pool
  | process handle =>
    obtain ⟨memory, pool, kept⟩ := manager.process_pool handle
    show (manager.perform (.process handle)).pool.memory.cell index = _
    rw [pool]
    rcases kept with rfl | ⟨mapping, later, mapped, status, rfl⟩
    · rfl
    · have other : mapping.index ≠ index := fun same => apart ⟨handle, mapping, later, rfl, mapped, same⟩
      exact Region.Memory.cell_change_of_ne other _

/-! ## Installing at most once -/

theorem Entry.Succeeds.installs {entry : Entry} (succeeds : entry.Succeeds) :
    entry.before.schema = none ∧ ∃ schema, entry.schema? = some schema ∧
      (entry.before.perform entry.call).schema = some schema := by
  obtain ⟨before, call⟩ := entry
  cases call with
  | publish schema capacity => exact succeeds.elim
  | install schema =>
    obtain ⟨vacant, installed⟩ := (before.installSchema_installs schema).succeeds succeeds
    exact ⟨vacant, schema, rfl, installed⟩
  | process handle =>
    change (before.installFromRegion handle).1 = .ok () at succeeds
    show before.schema = none ∧ ∃ given, before.posted? handle = some given ∧
      (before.installFromRegion handle).2.schema = some given
    rcases mapped : before.pool.map handle with ⟨error | mapping, pool⟩
    · unfold installFromRegion at succeeds
      rw [mapped] at succeeds
      cases succeeds
    · obtain ⟨verdicts, rfl, processed⟩ := installFromRegion_of_mapped mapped
      obtain ⟨⟨window, located, rfl⟩, _⟩ := Region.Pool.map_eq mapped
      rw [processed] at succeeds ⊢
      obtain ⟨schema, posted, read, vacant, installed⟩ := (installPosted_processes _ _).succeeds succeeds
      have seen : before.memory.flag window.index = Wire.schemaFlag := posted
      have spelled : Wire.Reader.schema.run (window.payload before.memory) = .ok schema := read
      refine ⟨vacant, schema, ?_, installed⟩
      unfold posted?
      rw [located]
      dsimp only
      rw [if_pos seen, spelled]
      rfl

theorem perform_schema_of_not (fails : ¬ Entry.Succeeds ⟨manager, call⟩) :
    (manager.perform call).schema = manager.schema := by
  cases call with
  | publish schema capacity => rfl
  | install schema => exact (manager.installSchema_installs schema).fails fails
  | process handle =>
    change (manager.installFromRegion handle).1 ≠ .ok () at fails
    show (manager.installFromRegion handle).2.schema = _
    rcases mapped : manager.pool.map handle with ⟨error | mapping, pool⟩
    · unfold installFromRegion
      rw [mapped]
      rfl
    · obtain ⟨verdicts, rfl, processed⟩ := installFromRegion_of_mapped mapped
      rw [processed] at fails ⊢
      exact (installPosted_processes _ _).fails fails

structure InstallsOnce (start : Manager) (history : List Entry) (manager : Manager) : Prop where
  once : history.Pairwise fun later earlier => ¬ (later.Succeeds ∧ earlier.Succeeds)
  stays : ∀ newer entry older, history = newer ++ entry :: older → entry.Succeeds →
    ∃ schema, entry.schema? = some schema ∧ manager.schema = some schema ∧
      ∀ later ∈ newer, later.before.schema = some schema
  origin : ∀ schema, manager.schema = some schema →
    start.schema = some schema ∨ ∃ entry ∈ history, entry.Succeeds ∧ entry.schema? = some schema
  held : ∀ schema, start.schema = some schema →
    manager.schema = some schema ∧ ∀ entry ∈ history, ¬ entry.Succeeds

theorem InstallsOnce.step (once : start.InstallsOnce history manager) (call : Call) :
    start.InstallsOnce (⟨manager, call⟩ :: history) (manager.perform call) := by
  have first (schema : Schema) (held : manager.schema = some schema) : ¬ Entry.Succeeds ⟨manager, call⟩ :=
    fun succeeds => by
      have vacant : manager.schema = none := succeeds.installs.1
      rw [held] at vacant
      contradiction
  constructor
  · refine .cons (fun earlier member ⟨later, sooner⟩ => ?_) once.once
    obtain ⟨newer, older, split⟩ := List.append_of_mem member
    obtain ⟨schema, _, held, _⟩ := once.stays newer earlier older split sooner
    exact first schema held later
  · intro newer entry older split succeeds
    cases newer with
    | nil =>
      obtain ⟨rfl, _⟩ := List.cons.inj split
      obtain ⟨_, schema, given, installed⟩ := succeeds.installs
      exact ⟨schema, given, installed, List.forall_mem_nil _⟩
    | cons newest newer =>
      obtain ⟨rfl, rest⟩ := List.cons.inj split
      obtain ⟨schema, given, held, since⟩ := once.stays newer entry older rest succeeds
      refine ⟨schema, given, perform_schema held call, fun later member => ?_⟩
      rcases List.mem_cons.mp member with rfl | member
      · exact held
      · exact since later member
  · intro schema held
    by_cases succeeds : Entry.Succeeds ⟨manager, call⟩
    · obtain ⟨_, installed, given, now⟩ := succeeds.installs
      obtain rfl := Option.some.inj (now.symm.trans held)
      exact .inr ⟨_, List.mem_cons_self, succeeds, given⟩
    · rw [perform_schema_of_not succeeds] at held
      refine (once.origin schema held).imp_right ?_
      rintro ⟨entry, member, done⟩
      exact ⟨entry, List.mem_cons_of_mem _ member, done⟩
  · intro schema before
    obtain ⟨held, none⟩ := once.held schema before
    refine ⟨perform_schema held call, fun entry member => ?_⟩
    rcases List.mem_cons.mp member with rfl | member
    · exact first schema held
    · exact none entry member

theorem Dealings.installsOnce (dealings : Dealings start history manager) : start.InstallsOnce history manager := by
  induction dealings with
  | start =>
    refine ⟨.nil, fun newer _ _ split => ?_, fun _ held => .inl held,
      fun _ held => ⟨held, List.forall_mem_nil _⟩⟩
    cases newer <;> contradiction
  | call _ call ih => exact ih.step call
  | meanwhile _ respects ih =>
    obtain ⟨once, stays, origin, held⟩ := ih
    refine ⟨once, ?_, ?_, ?_⟩
    · rw [respects.schema]
      exact stays
    · rw [respects.schema]
      exact origin
    · rw [respects.schema]
      exact held

theorem Dealings.sound (dealings : Dealings start history manager) (sound : start.pool.Sound) : manager.pool.Sound := by
  induction dealings with
  | start => exact sound
  | call _ call ih => exact perform_sound ih call
  | meanwhile _ respects => exact respects.sound

/-! ## Acknowledging -/

inductive Answers (entry : Entry) (schema : Schema) : Wire.Status → Prop where
  | ok (vacant : entry.before.schema = none)
      (created : (entry.before.resources.backend.createTables schema.tables).1 = .ok ())
      (succeeds : entry.Succeeds) : Answers entry schema .ok
  | conflict (held : entry.before.schema ≠ none) (fails : ¬ entry.Succeeds) : Answers entry schema .conflict
  | failed {error : Store.Error} (vacant : entry.before.schema = none)
      (rejected : (entry.before.resources.backend.createTables schema.tables).1 = .error error)
      (fails : ¬ entry.Succeeds) : Answers entry schema .failed

theorem process_waiting {handle : Region.Handle} {mapping : Region.Mapping} {pool : Region.Pool}
    (sized : manager.pool.Sized publication.window) (waits : publication.Waits manager.memory schema)
    (mapped : manager.pool.map handle = (.ok mapping, pool)) (here : mapping.index = publication.window.index) :
    manager.posted? handle = some schema ∧ ∃ status, Answers ⟨manager, .process handle⟩ schema status ∧
      publication.Told (manager.perform (.process handle)).memory status := by
  obtain ⟨verdicts, rfl, processed⟩ := installFromRegion_of_mapped mapped
  obtain ⟨⟨window, located, rfl⟩, _⟩ := Region.Pool.map_eq mapped
  obtain rfl := sized.locate located here
  have processes := (manager.setPool { manager.pool with verdicts }).installPosted_processes
    ⟨{ publication.window with handle }⟩
  refine ⟨?_, ?_⟩
  · unfold posted?
    rw [located]
    dsimp only
    rw [if_pos waits.posted, waits.reads]
    rfl
  · unfold perform
    dsimp only
    have outcome : (manager.installFromRegion handle).1 = .ok () ↔ Entry.Succeeds ⟨manager, .process handle⟩ := .rfl
    rw [processed] at outcome ⊢
    generalize (manager.setPool { manager.pool with verdicts }).installPosted
      ⟨{ publication.window with handle }⟩ = attempt at outcome processes
    cases processes with
    | unposted unposted => exact absurd waits.posted unposted
    | malformed _ malformed => cases waits.reads.symm.trans malformed
    | @answered read result installed _ reads installs =>
      obtain rfl := Except.ok.inj (waits.reads.symm.trans reads)
      refine ⟨verdict result, ?_, ⟨?_, ?_⟩⟩
      · cases installs with
        | taken taken => exact .conflict taken fun succeeds => nomatch outcome.mpr succeeds
        | rejected vacant rejected => exact .failed vacant rejected fun succeeds => nomatch outcome.mpr succeeds
        | done vacant created => exact .ok vacant (congrArg Prod.fst created) (outcome.mp rfl)
      · show publication.window.index < (manager.memory.setFlag _ _).next
        rw [Region.Memory.next_setFlag]
        exact waits.inside
      · exact Region.Memory.flag_setFlag waits.inside _

theorem process_told {handle : Region.Handle} {mapping : Region.Mapping} {pool : Region.Pool} {status : Wire.Status}
    (told : publication.Told manager.memory status)
    (mapped : manager.pool.map handle = (.ok mapping, pool)) (here : mapping.index = publication.window.index) :
    publication.Told (manager.perform (.process handle)).memory status := by
  obtain ⟨verdicts, rfl, processed⟩ := installFromRegion_of_mapped mapped
  have silent : manager.memory.flag mapping.index ≠ Wire.schemaFlag := by
    rw [here, told.answered]
    exact status.byte_ne_schema
  unfold perform
  dsimp only
  rw [processed]
  have processes := (manager.setPool { manager.pool with verdicts }).installPosted_processes ⟨mapping⟩
  generalize (manager.setPool { manager.pool with verdicts }).installPosted ⟨mapping⟩ = outcome at processes
  cases processes with
  | unposted => exact told
  | malformed posted | answered posted => exact absurd posted silent

/-- What became of a publication, given the entries since. -/
structure Standing (manager : Manager) (schema : Schema) (publication : Publication) (newer : List Entry) :
    Prop where
  sized : manager.pool.Sized publication.window
  waits : (∀ entry ∈ newer, ¬ entry.Processes publication.window.index) → publication.Waits manager.memory schema
  told : ∀ latest entry silent, newer = latest ++ entry :: silent → entry.Processes publication.window.index →
    (∀ earlier ∈ silent, ¬ earlier.Processes publication.window.index) →
    entry.schema? = some schema ∧ ∃ status, Answers entry schema status ∧ publication.Told manager.memory status

theorem Standing.step {newer : List Entry} (standing : Standing manager schema publication newer)
    (sound : manager.pool.Sound) (inside : publication.window.index < manager.memory.next) (call : Call) :
    Standing (manager.perform call) schema publication (⟨manager, call⟩ :: newer) := by
  have still : publication.window.index < (manager.perform call).memory.next :=
    Nat.lt_of_lt_of_le inside (manager.perform_next call)
  constructor
  · exact perform_sized standing.sized inside call
  · intro untouched
    obtain ⟨apart, others⟩ := List.forall_mem_cons.mp untouched
    exact (standing.waits others).of_cell still (perform_cell sound inside apart)
  · intro latest entry silent split processes others
    cases latest with
    | nil =>
      obtain ⟨rfl, rfl⟩ := List.cons.inj split
      obtain ⟨handle, mapping, pool, rfl, mapped, here⟩ := processes
      exact process_waiting standing.sized (standing.waits others) mapped here
    | cons newest latest =>
      obtain ⟨rfl, rest⟩ := List.cons.inj split
      obtain ⟨posted, status, answers, told⟩ := standing.told latest entry silent rest processes others
      refine ⟨posted, status, answers, ?_⟩
      -- the answer has taken the place of the message, so whoever processes the region again finds none
      by_cases again : Entry.Processes ⟨manager, call⟩ publication.window.index
      · obtain ⟨handle, mapping, pool, rfl, mapped, here⟩ := again
        exact process_told told mapped here
      · exact told.of_cell still (perform_cell sound inside again)

theorem Dealings.standing (dealings : Dealings start history manager) (sound : start.pool.Sound)
    {newer older : List Entry} {entry : Entry} (split : history = newer ++ entry :: older)
    (publishes : entry.Publishes schema publication) :
    publication.window.index < manager.memory.next ∧ Standing manager schema publication newer := by
  -- the publication stays where it is in the history while the entries before it grow
  induction dealings generalizing newer with
  | start => cases newer <;> contradiction
  | @call history manager dealings call ih =>
    cases newer with
    | nil =>
      obtain ⟨rfl, rfl⟩ := List.cons.inj split
      obtain ⟨capacity, rfl, published⟩ := publishes
      have publishedOnce := Client.publish_announced (dealings.sound sound) published
      refine ⟨publishedOnce.waits.inside, publishedOnce.sized, fun _ => publishedOnce.waits, fun latest _ _ split => ?_⟩
      cases latest <;> contradiction
    | cons newest newer =>
      obtain ⟨rfl, rest⟩ := List.cons.inj split
      obtain ⟨inside, standing⟩ := ih rest
      exact ⟨Nat.lt_of_lt_of_le inside (manager.perform_next call), standing.step (dealings.sound sound) inside call⟩
  | @meanwhile history manager later dealings respects ih =>
    obtain ⟨inside, standing⟩ := ih split
    have member : entry ∈ history := split ▸ List.mem_append_right newer List.mem_cons_self
    have still := Nat.lt_of_lt_of_le inside respects.next
    have cell := respects.cell entry member schema publication publishes
    refine ⟨still, respects.sized entry member schema publication publishes, fun untouched => ?_, ?_⟩
    · exact (standing.waits untouched).of_cell still cell
    · intro latest handling silent parts processes others
      obtain ⟨posted, status, answers, told⟩ := standing.told latest handling silent parts processes others
      exact ⟨posted, status, answers, told.of_cell still cell⟩

/-- What a publication is told, given the entries since: nothing until its region is processed, and from
then on what came of it the first time. -/
structure Truthful (manager : Manager) (schema : Schema) (publication : Publication) (newer : List Entry) :
    Prop where
  silent : (∀ entry ∈ newer, ¬ entry.Processes publication.window.index) →
    publication.acknowledgement? manager.memory = none
  told : ∀ latest entry silent, newer = latest ++ entry :: silent → entry.Processes publication.window.index →
    (∀ earlier ∈ silent, ¬ earlier.Processes publication.window.index) →
    entry.schema? = some schema ∧
    (publication.acknowledgement? manager.memory = some (.ok ()) ↔ entry.Succeeds) ∧
    (publication.acknowledgement? manager.memory = some (.error .conflict) ↔ entry.before.schema ≠ none) ∧
    (publication.acknowledgement? manager.memory = some (.error (.failed "schema rejected by server")) ↔
      entry.before.schema = none ∧
        ∃ error, (entry.before.resources.backend.createTables schema.tables).1 = .error error) ∧
    (entry.Succeeds ∨ entry.before.schema ≠ none ∨
      ∃ error, (entry.before.resources.backend.createTables schema.tables).1 = .error error)

theorem Standing.truthful {newer : List Entry} (standing : Standing manager schema publication newer) :
    Truthful manager schema publication newer := by
  refine ⟨fun untouched => (standing.waits untouched).acknowledgement?, ?_⟩
  intro latest entry silent split processes others
  obtain ⟨posted, status, answers, told⟩ := standing.told latest entry silent split processes others
  rw [told.acknowledgement?]
  refine ⟨posted, ?_⟩
  cases answers with
  | ok vacant created succeeds => simp [Publication.heard, vacant, created, succeeds]
  | conflict held fails => simp [Publication.heard, held, fails]
  | failed vacant rejected fails => simp [Publication.heard, vacant, rejected, fails]

/-! ## Regions and schemas that are refused -/

/-- A schema is published exactly if it has room in its region, once there is one; else the region is taken
back. -/
def Publishing (manager : Manager) : Prop :=
  ∀ schema capacity mapping mapped, manager.pool.allocateMapped capacity = (.ok mapping, mapped) →
    ((manager.publish schema capacity).1.isOk ↔
      Wire.Shape.schema.encodedLength schema ≤ capacity - Region.headerLength) ∧
    (capacity - Region.headerLength < Wire.Shape.schema.encodedLength schema →
      (∃ needed remaining,
        (manager.publish schema capacity).1 = .error (.wire (.bufferOverflow needed remaining))) ∧
      (manager.publish schema capacity).2.pool.locate mapping.handle = .error (.unknownRegion mapping.handle))

/-- A region that no schema is posted in is refused and left alone, and one whose bytes spell no schema is
refused and told so. No schema and no table comes of either. -/
def Refusing (manager : Manager) : Prop :=
  ∀ handle mapping pool, manager.pool.map handle = (.ok mapping, pool) →
    (manager.memory.flag mapping.index ≠ Wire.schemaFlag →
      manager.installFromRegion handle =
        (.error (.violation (.unexpectedFlag (manager.memory.flag mapping.index))), manager.setPool pool)) ∧
    ∀ error, manager.memory.flag mapping.index = Wire.schemaFlag →
      Wire.Reader.schema.run (mapping.payload manager.memory) = .error error →
      manager.installFromRegion handle = (.error (.wire error),
        (manager.setPool pool).setMemory (manager.memory.setFlag mapping.index Wire.Status.failed.byte))

theorem publishing (sound : manager.pool.Sound) : manager.Publishing := by
  intro schema capacity mapping mapped allocated
  show (_ ↔ Wire.Shape.schemaLength schema ≤ _) ∧ (_ < Wire.Shape.schemaLength schema → _)
  unfold publish
  obtain ⟨fits, later, published, _⟩ | ⟨large, needed, remaining, memory, refused, _, withdrawn⟩ :=
    Client.publish_allocated sound allocated schema
  · rw [published]
    exact ⟨iff_of_true rfl fits, fun large => absurd fits (Nat.not_le_of_lt large)⟩
  · rw [refused]
    refine ⟨iff_of_false Bool.false_ne_true (Nat.not_le_of_lt large), fun _ => ?_⟩
    exact ⟨⟨needed, remaining, rfl⟩, withdrawn.released⟩

theorem refusing (manager : Manager) : manager.Refusing := by
  intro handle mapping pool mapped
  obtain ⟨verdicts, rfl, processed⟩ := installFromRegion_of_mapped mapped
  have processes := (manager.setPool { manager.pool with verdicts }).installPosted_processes ⟨mapping⟩
  rw [processed]
  refine ⟨fun other => ?_, fun error posted spelled => ?_⟩
  · generalize (manager.setPool { manager.pool with verdicts }).installPosted ⟨mapping⟩ = outcome at processes
    cases processes with
    | unposted => rfl
    | malformed posted | answered posted => exact absurd posted other
  · generalize (manager.setPool { manager.pool with verdicts }).installPosted ⟨mapping⟩ = outcome at processes
    cases processes with
    | unposted unposted => exact absurd posted unposted
    | malformed _ malformed =>
      obtain rfl := Except.error.inj (spelled.symm.trans malformed)
      rfl
    | answered _ read => cases spelled.symm.trans read

/-- Whatever is published, processed and installed in whatever order, at most one schema is installed and
stays, every publication is told what became of it, a schema is published exactly if it has room, and a
region without a schema changes nothing. -/
theorem Dealings.installs_once_and_truthfully (dealings : Dealings start history manager) (sound : start.pool.Sound) :
    start.InstallsOnce history manager ∧
    (∀ newer entry older schema publication, history = newer ++ entry :: older →
      entry.Publishes schema publication → Truthful manager schema publication newer) ∧
    manager.Publishing ∧ manager.Refusing := by
  refine ⟨dealings.installsOnce, ?_, publishing (dealings.sound sound), manager.refusing⟩
  intro newer entry older schema publication split publishes
  exact (dealings.standing sound split publishes).2.truthful

def people : Schema := ⟨[⟨"people", ["name"]⟩], ""⟩

def publishedOnce : Manager := noSchema.perform (.publish people 64)

def publishedTwice : Manager := publishedOnce.perform (.publish people 96)

def processedSecond : Manager := publishedTwice.perform (.process (.anonymous 2))

theorem publishedTwice_installs_once : noSchema.pool.Sound ∧ ∃ history manager first second,
    Dealings noSchema history manager ∧ noSchema.InstallsOnce history manager ∧ manager.schema = some people ∧
      Entry.Publishes ⟨noSchema, .publish people 64⟩ people first ∧
      Entry.Publishes ⟨publishedOnce, .publish people 96⟩ people second ∧
      first.acknowledgement? manager.memory = some (.error .conflict) ∧
      second.acknowledgement? manager.memory = some (.ok ()) := by
  have bare : Region.Pool.Bare .empty := nofun
  have sound : noSchema.pool.Sound := Region.Pool.anonymous_sound bare none
  have dealings : Dealings noSchema
      [⟨processedSecond, .process (.anonymous 1)⟩, ⟨publishedTwice, .process (.anonymous 2)⟩,
        ⟨publishedOnce, .publish people 96⟩, ⟨noSchema, .publish people 64⟩]
      (processedSecond.perform (.process (.anonymous 1))) := .call (.call (.call (.call .start _) _) _) _
  obtain ⟨once, truthful, _, _⟩ := dealings.installs_once_and_truthfully sound
  have first : Entry.Publishes ⟨noSchema, .publish people 64⟩ people ⟨⟨⟨0, 64⟩, .anonymous 1⟩⟩ := ⟨64, rfl, rfl⟩
  have second : Entry.Publishes ⟨publishedOnce, .publish people 96⟩ people ⟨⟨⟨1, 96⟩, .anonymous 2⟩⟩ := ⟨96, rfl, rfl⟩
  have apart : ∀ entry ∈ [⟨publishedTwice, .process (.anonymous 2)⟩, ⟨publishedOnce, .publish people 96⟩],
      ¬ Entry.Processes entry 0 := by
    simp only [List.forall_mem_cons, List.not_mem_nil, false_implies, implies_true, and_true]
    constructor
    · rintro ⟨_, mapping, _, ⟨⟩, mapped, here⟩
      obtain rfl := Except.ok.inj (congrArg Prod.fst mapped)
      contradiction
    · rintro ⟨_, _, _, called, _⟩
      cases called
  refine ⟨sound, _, _, _, _, dealings, once, rfl, first, second, ?_, ?_⟩
  · obtain ⟨_, _, conflict, _⟩ := (truthful [_, _, _] _ [] people _ rfl first).told [] _ _ rfl
      ⟨.anonymous 1, _, _, rfl, rfl, rfl⟩ apart
    exact conflict.mpr nofun
  · obtain ⟨_, ok, _⟩ := (truthful [_, _] _ _ people _ rfl second).told [_] _ [] rfl
      ⟨.anonymous 2, _, _, rfl, rfl, rfl⟩ nofun
    exact ok.mpr rfl

end SharedRecords.Manager
