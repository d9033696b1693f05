import SharedRecords.Proofs.KeyMap
import SharedRecords.Proofs.Store.Refinement
import SharedRecords.Workload.Run

/-!
The table of a workload while it is loaded and run. It holds the records numbered below a bound and no other,
so that a new one is always accepted and one that is asked for is always there.
-/

namespace SharedRecords

namespace Store.StoredTable

theorem amend_of_known {table : StoredTable} {values : Record}
    (known : ∀ pair ∈ values, pair.field ∈ table.columns) (name : String) (row : Row) :
    ∃ amended, table.amend name row values = .ok amended := by
  have none_strange : (values.map (·.field)).find? (· ∉ table.columns) = none := by
    simpa using known
  have resolved := table.slots_layout name values
  rw [none_strange] at resolved
  obtain ⟨indices, slots, _⟩ := resolved
  exact ⟨fill row indices values, by rw [amend, slots]⟩

end Store.StoredTable

namespace Workload

variable {workload : Workload} {next number : Nat} {table later : Store.StoredTable} {store : Store}

theorem key_injective : Function.Injective key := by
  intro first second same
  have digits := String.ofList_inj.1 ((String.append_right_inj _).1 same)
  have value (number : Nat) : Nat.ofDigitChars 10 (List.replicate (10 - (Nat.toDigits 10 number).length) '0' ++
      Nat.toDigits 10 number) 0 = number := by
    rw [Nat.ofDigitChars_append, Nat.ofDigitChars_replicate_zero, Nat.mul_zero, Nat.ofDigitChars_ten_toDigits]
  rw [← value first, digits, value second]

theorem fields_known (workload : Workload) (number : Nat) :
    ∀ pair ∈ workload.values number, pair.field ∈ workload.schema.columns := by
  intro pair member
  obtain ⟨index, inside, rfl⟩ := List.mem_map.1 member
  exact List.mem_map_of_mem inside

theorem values_head? (workload : Workload) (fields : 1 ≤ workload.fieldCount) (number : Nat) :
    ∃ value, (workload.values number).head? = some value ∧ value ∈ workload.values number := by
  cases held : workload.values number with
  | nil =>
    have none := List.range_eq_nil.1 (List.map_eq_nil_iff.1 held)
    omega
  | cons first rest => exact ⟨first, rfl, List.mem_cons_self⟩

/-- The table holds the records numbered below a bound, and no more. -/
structure Stocks (workload : Workload) (next : Nat) (table : Store.StoredTable) : Prop where
  columns : table.columns = workload.schema.columns
  size : table.rows.size = next
  contains_iff : ∀ number, table.rows.contains (key number) = true ↔ number < next

theorem stocks_create (workload : Workload) : workload.Stocks 0 (.create workload.schema) where
  columns := rfl
  size := rfl
  contains_iff _ := ⟨nofun, nofun⟩

namespace Stocks

theorem known (stocks : workload.Stocks next table) (number : Nat) :
    ∀ pair ∈ workload.values number, pair.field ∈ table.columns := by
  rw [stocks.columns]
  exact workload.fields_known number

theorem find? (stocks : workload.Stocks next table) (early : number < next) :
    ∃ row, table.rows.find? (key number) = some row :=
  Option.isSome_iff_exists.1 ((stocks.contains_iff number).2 early)

theorem insert (stocks : workload.Stocks next table) (name : String) :
    ∃ later, table.insert name (key next) (workload.values next) = .ok later ∧
      workload.Stocks (next + 1) later := by
  have fresh : table.rows.contains (key next) = false := by
    rw [← Bool.not_eq_true, stocks.contains_iff]
    exact Nat.lt_irrefl next
  obtain ⟨row, amended⟩ := Store.StoredTable.amend_of_known (stocks.known next) name table.blankRow
  refine ⟨{ table with rows := table.rows.insert (key next) row }, ?_, ?_⟩
  · rw [Store.StoredTable.insert, fresh, amended]
    rfl
  · constructor
    · exact stocks.columns
    · rw [KeyMap.size_insert, fresh, stocks.size]
      rfl
    · intro number
      rw [KeyMap.contains, KeyMap.find?_insert, Nat.lt_succ_iff_lt_or_eq]
      by_cases same : number = next
      · simp [same]
      · rw [if_neg fun keys => same (key_injective keys)]
        exact (stocks.contains_iff number).trans (or_iff_left same).symm

theorem update (stocks : workload.Stocks next table) (early : number < next) {values : Record}
    (known : ∀ pair ∈ values, pair.field ∈ table.columns) (name : String) :
    ∃ later, table.update name (key number) values = .ok later ∧ workload.Stocks next later := by
  obtain ⟨held, found⟩ := stocks.find? early
  obtain ⟨row, amended⟩ := Store.StoredTable.amend_of_known known name held
  refine ⟨{ table with rows := table.rows.insert (key number) row }, ?_, ?_⟩
  · rw [Store.StoredTable.update, found]
    dsimp only
    rw [amended]
  · have there := (stocks.contains_iff number).2 early
    constructor
    · exact stocks.columns
    · rw [KeyMap.size_insert, there, stocks.size]
      rfl
    · intro other
      rw [KeyMap.contains, KeyMap.find?_insert]
      split
      next same =>
        rw [key_injective same]
        exact ⟨fun _ => early, fun _ => rfl⟩
      next => exact stocks.contains_iff other

theorem read (stocks : workload.Stocks next table) (early : number < next) (fields : List String) :
    ∃ record, table.read (key number) fields = .ok record := by
  obtain ⟨row, found⟩ := stocks.find? early
  exact ⟨table.project fields row, by rw [Store.StoredTable.read, found]⟩

theorem scan (stocks : workload.Stocks next table) (early : number < next) {count : Nat} (some : 0 < count)
    (fields : List String) : ∃ rows, table.scan (key number) count fields = .ok rows := by
  obtain ⟨row, found⟩ := stocks.find? early
  have member := (table.rows.mem_startingAt (key number)).2 ⟨KeyMap.mem_of_find? found, le_refl _⟩
  unfold Store.StoredTable.scan
  cases met : (table.rows.startingAt (key number)).take count with
  | nil =>
    rcases List.take_eq_nil_iff.1 met with none | empty
    · omega
    · rw [empty] at member
      exact absurd member List.not_mem_nil
  | cons first rest => exact ⟨_, rfl⟩

end Stocks

/-! ## The store around the table -/

def Stocked (workload : Workload) (next : Nat) (store : Store) : Prop :=
  ∃ table, store.tables.find? workload.table = some table ∧ workload.Stocks next table

namespace Stocked

theorem of_tables {other : Store} (stocked : workload.Stocked next store) (same : other.tables = store.tables) :
    workload.Stocked next other := by
  unfold Stocked
  rw [same]
  exact stocked

theorem recordCount? (stocked : workload.Stocked next store) : store.recordCount? workload.table = some next := by
  obtain ⟨table, found, stocks⟩ := stocked
  rw [Store.recordCount?, found, Option.map_some, stocks.size]

theorem change (edit : Store.StoredTable → Except Store.Error Store.StoredTable)
    (found : store.tables.find? workload.table = some table) (edited : edit table = .ok later)
    (stocks : workload.Stocks next later) : ∃ changed, store.settle (store.change workload.table edit) =
      (.ok .empty, changed) ∧ workload.Stocked next changed := by
  refine ⟨{ store with tables := store.tables.insert workload.table later }, ?_, later, ?_, stocks⟩
  · rw [Store.change, Store.query, found]
    dsimp only
    rw [edited]
    rfl
  · rw [KeyMap.find?_insert, if_pos rfl]

theorem insert (stocked : workload.Stocked next store) :
    ∃ later, store.answer (.insert workload.table (key next) (workload.values next)) = (.ok .empty, later) ∧
      workload.Stocked (next + 1) later := by
  obtain ⟨table, found, stocks⟩ := stocked
  obtain ⟨edited, inserted, after⟩ := stocks.insert workload.table
  exact change _ found inserted after

theorem target_lt (records : 1 ≤ workload.recordCount) (slot : Nat) :
    workload.target slot < workload.recordCount := by
  unfold target
  rw [Nat.max_eq_left records]
  exact Nat.mod_lt _ records

theorem request (stocked : workload.Stocked next store) (loaded : workload.recordCount ≤ next)
    (records : 1 ≤ workload.recordCount) (fields : 1 ≤ workload.fieldCount) (scans : 1 ≤ workload.scanLength)
    (countable : workload.scanLength < UInt64.size) (slot : Nat) :
    ∃ request reply later, workload.request slot next = some request ∧ request ≠ .close ∧
      store.answer request = (.ok reply, later) ∧ workload.Stocked (workload.nextInsert slot next) later := by
  have early : workload.target slot < next := Nat.lt_of_lt_of_le (target_lt records slot) loaded
  have other {request : Wire.Request} (stays : (request.opcode == .close) = false) : request ≠ .close := by
    rintro rfl
    contradiction
  unfold Workload.request nextInsert
  cases workload.mix.pick slot with
  | insert =>
    obtain ⟨later, answered, after⟩ := stocked.insert
    exact ⟨_, .empty, later, rfl, other rfl, answered, after⟩
  | read =>
    obtain ⟨table, found, stocks⟩ := stocked
    obtain ⟨record, read⟩ := stocks.read early []
    refine ⟨_, .record record, store, rfl, other rfl, ?_, table, found, stocks⟩
    rw [Store.answer, Store.read, Store.query, found]
    dsimp only
    rw [read]
    rfl
  | scan =>
    obtain ⟨table, found, stocks⟩ := stocked
    have length : (UInt64.ofNat workload.scanLength).toNat = workload.scanLength :=
      UInt64.toNat_ofNat_of_lt' countable
    obtain ⟨rows, scanned⟩ := stocks.scan early scans []
    refine ⟨_, .rows rows, store, rfl, other rfl, ?_, table, found, stocks⟩
    rw [Store.answer, Store.scan, Store.query, found, length]
    dsimp only
    rw [scanned]
    rfl
  | update =>
    obtain ⟨table, found, stocks⟩ := stocked
    obtain ⟨value, first, member⟩ := workload.values_head? fields slot
    have known : ∀ pair ∈ [value], pair.field ∈ table.columns :=
      List.forall_mem_singleton.2 (stocks.known slot value member)
    obtain ⟨edited, updated, after⟩ := stocks.update early known workload.table
    obtain ⟨later, answered, still⟩ := change (·.update workload.table _ _) found updated after
    exact ⟨_, .empty, later, congrArg (Option.map _) first, other rfl, answered, still⟩

end Stocked

end Workload

end SharedRecords
