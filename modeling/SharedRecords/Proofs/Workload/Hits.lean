import SharedRecords.Proofs.Manager.Acknowledged
import SharedRecords.Proofs.Store.Footprint
import SharedRecords.Proofs.Workload.Reported
import SharedRecords.Proofs.Workload.Stock

/-!
A workload that is loaded and run through a session, whose regions have room for all that is said. Every record
is accepted, every slot finds what it asks for, and the report counts each of them once.
-/

namespace SharedRecords

namespace Client

def Carries (client : Client) : Store → List Wire.Request → Prop
  | _, [] => True
  | store, request :: rest =>
    request.chunks.size ≤ client.channel.requestCapacity ∧
      (store.answer request).1.chunks.size ≤ client.channel.response.room ∧
      Carries client (store.answer request).2 rest

instance decidableCarries (client : Client) : (store : Store) → (requests : List Wire.Request) →
    Decidable (client.Carries store requests)
  | _, [] => .isTrue trivial
  | store, request :: rest =>
    have := decidableCarries client (store.answer request).2 rest
    inferInstanceAs (Decidable (_ ∧ _ ∧ _))

theorem Carries.of_tables {client : Client} {first second : Store} {requests : List Wire.Request}
    (carries : client.Carries first requests) (same : first.tables = second.tables) :
    client.Carries second requests := by
  induction requests generalizing first second with
  | nil => trivial
  | cons request rest ih =>
    obtain ⟨asked, told, later⟩ := carries
    have alike : first.SameOn (fun _ _ => True) second := .of_tables same
    obtain ⟨outcome, after⟩ := alike.answer request fun _ _ _ => trivial
    exact ⟨asked, outcome ▸ told, ih later after.tables_eq⟩

end Client

namespace Workload

def loading (workload : Workload) (number count : Nat) : List Wire.Request :=
  (List.range' number count).map fun number =>
    .insert workload.table (key number) (workload.values number)

def asking (workload : Workload) : Nat → Nat → Nat → List Wire.Request
  | 0, _, _ => []
  | count + 1, slot, next =>
    (workload.request slot next).toList ++ asking workload count (slot + 1) (workload.nextInsert slot next)

def requests (workload : Workload) (operations : Nat) : List Wire.Request :=
  workload.loading 0 workload.recordCount ++ workload.asking operations 0 workload.recordCount

theorem nextInsert_eq (workload : Workload) (slot next : Nat) :
    workload.nextInsert slot next = next + if workload.mix.pick slot = .insert then 1 else 0 := by
  unfold nextInsert
  split <;> rfl

namespace Bench

def store (bench : Bench) : Store := bench.manager.resources.backend.store

/-- The client is paired with its session, the table is stocked below a bound, and there is room for the
requests to come. -/
structure Ready (bench : Bench) (workload : Workload) (next : Nat) (requests : List Wire.Request) : Prop where
  paired : ∃ front back session link, bench.manager.Paired bench.client front back session link
  stocked : workload.Stocked next bench.store
  carries : bench.client.Carries bench.store requests

variable {bench : Bench} {workload : Workload} {next slot : Nat} {request : Wire.Request}
  {rest : List Wire.Request} {elapsed : Nat → Nat}

theorem Ready.call {reply : Wire.Reply} {answered : Store} {after : Nat}
    (ready : bench.Ready workload next (request :: rest)) (other : request ≠ .close)
    (answer : bench.store.answer request = (.ok reply, answered)) (stocked : workload.Stocked after answered) :
    ∃ later, bench.call request = some (.ok reply, later) ∧ later.Ready workload after rest := by
  obtain ⟨front, back, session, link, paired⟩ := ready.paired
  obtain ⟨asked, told, carries⟩ := ready.carries
  obtain ⟨result, ended, later, called, tables, came⟩ := paired.call_fits other asked
  rw [show bench.manager.resources.backend.store.answer request = _ from answer] at tables came
  rw [answer] at told carries
  have room : link.channel.replyCapacity = bench.client.channel.response.room := by
    rw [paired.joined.response]
    rfl
  rcases came with ⟨reports, rfl, session, link, still⟩ | ⟨large, _⟩
  · rw [Client.Reports, room, if_pos told] at reports
    subst reports
    refine ⟨⟨later, bench.client⟩, ?_, ⟨front, back, session, link, still⟩, ?_, ?_⟩
    · unfold Bench.call
      rw [called]
      rfl
    · exact stocked.of_tables tables
    · exact carries.of_tables tables.symm
  · rw [room] at large
    exact absurd told (Nat.not_le.2 large)

theorem Ready.loadFrom {count : Nat} (ready : bench.Ready workload next (workload.loading next count ++ rest))
    (tracker : Latency.Histogram) :
    ∃ filled later, workload.loadFrom elapsed count next tracker bench = some (.ok filled, later) ∧
      filled.count = tracker.count + count ∧ later.Ready workload (next + count) rest := by
  induction count generalizing next tracker bench with
  | zero => exact ⟨tracker, bench, rfl, rfl, ready⟩
  | succ count ih =>
    obtain ⟨answered, inserted, stocked⟩ := ready.stocked.insert
    obtain ⟨later, called, still⟩ := Ready.call ready nofun inserted stocked
    obtain ⟨filled, last, loaded, counted, done⟩ := ih still (tracker.record (elapsed next))
    refine ⟨filled, last, ?_, ?_, ?_⟩
    · unfold Workload.loadFrom
      rw [called]
      exact loaded
    · rw [counted, Latency.Histogram.counts.record]
      omega
    · rw [← Nat.succ_add_eq_add_succ]
      exact done

theorem Ready.runFrom {count : Nat} (records : 1 ≤ workload.recordCount) (fields : 1 ≤ workload.fieldCount)
    (scans : 1 ≤ workload.scanLength) (countable : workload.scanLength < UInt64.size)
    (ready : bench.Ready workload next (workload.asking count slot next))
    (loaded : workload.recordCount ≤ next) (report : Report) :
    ∃ whole later, workload.runFrom elapsed count slot next report bench = some (.ok whole, later) ∧
      report.Extends whole workload.mix slot count ∧
      workload.Stocked (next + workload.mix.picked slot count .insert) later.store := by
  induction count generalizing slot next report bench with
  | zero => exact ⟨report, bench, rfl, .refl report workload.mix slot, ready.stocked⟩
  | succ count ih =>
    obtain ⟨request, reply, answered, asks, other, answer, stocked⟩ :=
      ready.stocked.request loaded records fields scans countable slot
    rw [asking, asks] at ready
    obtain ⟨later, called, still⟩ := Ready.call ready other answer stocked
    have more : workload.recordCount ≤ workload.nextInsert slot next := by
      rw [nextInsert_eq]
      omega
    obtain ⟨whole, last, ran, extended, holds⟩ :=
      ih still more (report.record (workload.mix.pick slot) (elapsed slot))
    refine ⟨whole, last, ?_, extended.cons, ?_⟩
    · unfold Workload.runFrom
      rw [asks, Option.bind_some, called]
      exact ran
    · rw [nextInsert_eq] at holds
      rw [Mix.picked_succ, ← Nat.add_assoc, Nat.add_right_comm]
      exact holds

end Bench

/-- A workload that is loaded through a session of its own never misses. -/
theorem loaded_run_hits {workload : Workload} {operations : Nat} {manager spawned connected : Manager}
    {address : Channel.Address} {options : Client.Options} {client : Client} (reached : manager.Reached)
    (makes : manager.Makes address spawned) (connect : spawned.connect address options = (.ok client, connected))
    (rest : ∀ other ∈ manager.sessions, other.Idle connected.memory)
    (fresh : connected.resources.backend.store.tables.find? workload.table = some (.create workload.schema))
    (roomy : client.Carries connected.resources.backend.store (workload.requests operations))
    (records : 1 ≤ workload.recordCount) (fields : 1 ≤ workload.fieldCount) (scans : 1 ≤ workload.scanLength)
    (countable : workload.scanLength < UInt64.size) (filling running : Nat → Nat) :
    ∃ tracker loaded report later,
      workload.load filling ⟨connected, client⟩ = some (.ok tracker, loaded) ∧
      tracker.count = workload.recordCount ∧
      loaded.store.recordCount? workload.table = some workload.recordCount ∧
      workload.run running operations loaded = some (.ok report, later) ∧
      report.operations = operations ∧ report.overall.count = operations ∧ report.misses = 0 ∧
      (∀ operation, report.count operation = workload.mix.picked 0 operations operation) ∧
      later.store.recordCount? workload.table =
        some (workload.recordCount + workload.mix.picked 0 operations .insert) := by
  obtain ⟨session, link, paired⟩ := makes.paired reached connect rest
  have ready : Bench.Ready ⟨connected, client⟩ workload 0 (workload.requests operations) :=
    ⟨⟨_, _, session, link, paired⟩, ⟨_, fresh, workload.stocks_create⟩, roomy⟩
  obtain ⟨tracker, loaded, filled, counted, still⟩ := ready.loadFrom .empty
  rw [Nat.zero_add] at still
  obtain ⟨report, later, ran, extended, holds⟩ :=
    still.runFrom records fields scans countable (Nat.le_refl _) .empty
  refine ⟨tracker, loaded, report, later, filled, ?_, still.stocked.recordCount?, ran, ?_, ?_, extended.misses, ?_,
    holds.recordCount?⟩
  · exact counted.trans (Nat.zero_add _)
  · exact extended.operations.trans (Nat.zero_add _)
  · exact extended.overall.trans (Nat.zero_add _)
  · exact fun operation => (extended.counts operation).trans (Nat.zero_add _)

/-- One record, and one slot for every operation. -/
def oneRecord : Workload := ⟨"people", 1, 3, 1, 1, ⟨1, 1, 1, 1⟩⟩

def oneRecordManager : Manager :=
  ((Manager.new (.ofStore .empty) (.anonymous .empty none) ⟨256, .spin, 0, "session"⟩).installSchema
    ⟨[oneRecord.schema], ":memory:"⟩).2

theorem oneRecord_hits : ∃ address client connected,
    oneRecordManager.spawn.1 = .ok address ∧ oneRecordManager.spawn.2.connect address {} = (.ok client, connected) ∧
      client.Carries connected.resources.backend.store (oneRecord.requests 4) ∧
      ∃ tracker loaded report later,
        oneRecord.load id ⟨connected, client⟩ = some (.ok tracker, loaded) ∧
        oneRecord.run id 4 loaded = some (.ok report, later) ∧ report.operations = 4 ∧ report.misses = 0 ∧
        report.count .scan = 1 ∧ later.store.recordCount? "people" = some 2 := by
  have bare : Region.Pool.Bare .empty := nofun
  have reached : oneRecordManager.Reached := .installSchema (.new .empty (Region.Pool.anonymous_sound bare none) _) _
  have rest : ∀ memory, ∀ other ∈ oneRecordManager.sessions, other.Idle memory :=
    fun _ _ member => absurd member List.not_mem_nil
  let address : Channel.Address := ⟨⟨1⟩, .anonymous 1, .anonymous 2⟩
  let client : Client :=
    ⟨⟨1⟩, .connect ⟨⟨0, 256⟩, .anonymous 1⟩ ⟨⟨1, 256⟩, .anonymous 2⟩ (Client.Options.poller {})⟩
  let connected := (oneRecordManager.spawn.2.connect address {}).2
  have spawn : oneRecordManager.spawn = (.ok address, oneRecordManager.spawn.2) := rfl
  have connect : oneRecordManager.spawn.2.connect address {} = (.ok client, connected) := rfl
  have fresh : connected.resources.backend.store.tables.find? oneRecord.table = some (.create oneRecord.schema) := rfl
  have roomy : client.Carries connected.resources.backend.store (oneRecord.requests 4) := by decide +kernel
  obtain ⟨tracker, loaded, report, later, filled, _, _, ran, operations, _, misses, counts, records⟩ :=
    loaded_run_hits reached (.spawn spawn) connect (rest _) fresh roomy (by decide) (by decide) (by decide) (by decide)
      id id
  exact ⟨address, client, connected, rfl, connect, roomy, tracker, loaded, report, later, filled, ran, operations,
    misses, counts .scan, records⟩

end Workload

end SharedRecords
