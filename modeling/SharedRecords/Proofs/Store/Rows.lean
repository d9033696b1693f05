import SharedRecords.Proofs.Store.Columns

/-!
How a store keeps its rows. A row has one slot for each column of its table, and the slot of a column that was
listed before stays empty, whatever is created, written and removed, and whether it is met or refused. So a
write never goes past the end of its row, columns and slots are paired without a rest, and no record that is
read or scanned shows a field twice.
-/

namespace SharedRecords.Store

/-! ## One row -/

/-- The row has one slot for each column, and nothing in the slot of a column that is listed earlier as well. -/
structure Fits (columns : List String) (row : Row) : Prop where
  length : row.length = columns.length
  vacant : ∀ {earlier later : Nat} {column : String}, earlier < later →
    columns[earlier]? = some column → columns[later]? = some column → row[later]? = some none

structure Shows (columns : List String) (record : Record) : Prop where
  distinct : (record.map (·.field)).Nodup
  ordered : (record.map (·.field)).Sublist columns

namespace Fits

variable {columns : List String} {row : Row}

theorem blank (columns : List String) : Fits columns (List.replicate columns.length none) where
  length := List.length_replicate
  vacant _ _ listed := by
    obtain ⟨inside, _⟩ := List.getElem?_eq_some_iff.mp listed
    rw [List.getElem?_replicate, if_pos inside]

theorem set (fits : Fits columns row) {index : Nat} {column : String} (named : columns[index]? = some column)
    (first : ∀ earlier < index, columns[earlier]? ≠ some column) (value : String) :
    Fits columns (row.set index (some value)) where
  length := by rw [List.length_set, fits.length]
  vacant {earlier later _} before here there := by
    have apart : index ≠ later := by
      rintro rfl
      obtain rfl := Option.some.inj (named.symm.trans there)
      exact first earlier before here
    rw [List.getElem?_set_ne apart]
    exact fits.vacant before here there

theorem unzip_zip (fits : Fits columns row) : (columns.zip row).unzip = (columns, row) :=
  List.unzip_zip fits.length.symm

theorem pairwise_zip (fits : Fits columns row) :
    (columns.zip row).Pairwise fun earlier later => earlier.1 = later.1 → later.2 = none := by
  rw [List.pairwise_iff_getElem]
  intro earlier later _ _ before same
  simp only [List.getElem_zip] at same ⊢
  have here := (List.getElem?_eq_getElem _).trans (congrArg some same)
  have empty := fits.vacant before here (List.getElem?_eq_getElem _)
  obtain ⟨_, held⟩ := List.getElem?_eq_some_iff.mp empty
  exact held

end Fits

/-! ## One table -/

namespace StoredTable

variable {table later : StoredTable} {name column key : String} {values : Record} {fields : List String}
  {row : Row} {index : Nat} {indices : List Nat}

theorem slot_first (located : table.slot name column = .ok index) :
    table.columns[index]? = some column ∧ ∀ earlier < index, table.columns[earlier]? ≠ some column := by
  unfold slot at located
  split at located
  next place found =>
    cases located
    obtain ⟨inside, hit, misses⟩ := List.findIdx?_eq_some_iff_getElem.mp found
    refine ⟨List.getElem?_eq_some_iff.mpr ⟨inside, by simpa using hit⟩, fun earlier before listed => ?_⟩
    obtain ⟨_, same⟩ := List.getElem?_eq_some_iff.mp listed
    exact misses earlier before (by simpa using same)
  next => cases located

theorem slots_cons {pair : Pair} (located : table.slots name (pair :: values) = .ok indices) :
    ∃ index others, table.slot name pair.field = .ok index ∧ table.slots name values = .ok others ∧
      indices = index :: others := by
  unfold slots at located
  split at located
  next => cases located
  next index here =>
    split at located
    next => cases located
    next others there =>
      cases located
      exact ⟨index, others, here, there, rfl⟩

/-- Fills slots in order. Nothing is answered if one of them lies past the end of the row. -/
def fill? (row : Row) (indices : List Nat) (values : Record) : Option Row :=
  (indices.zip values).foldlM
    (fun row (index, pair) => if index < row.length then some (row.set index (some pair.value)) else none) row

theorem fill?_cons (row : Row) (index : Nat) (indices : List Nat) (pair : Pair) (values : Record) :
    fill? row (index :: indices) (pair :: values) =
      if index < row.length then fill? (row.set index (some pair.value)) indices values else none := by
  unfold fill?
  rw [List.zip_cons_cons, List.foldlM_cons]
  dsimp only
  split
  · rfl
  · rfl

theorem fill_fits (fits : Fits table.columns row) (located : table.slots name values = .ok indices) :
    fill? row indices values = some (fill row indices values) ∧ Fits table.columns (fill row indices values) := by
  -- each value goes into the row that the values before it left
  induction values generalizing row indices with
  | nil =>
    cases located
    exact ⟨rfl, fits⟩
  | cons pair rest ih =>
    obtain ⟨index, others, here, there, rfl⟩ := slots_cons located
    obtain ⟨named, first⟩ := slot_first here
    obtain ⟨inside, _⟩ := List.getElem?_eq_some_iff.mp named
    obtain ⟨filled, still⟩ := ih (fits.set named first pair.value) there
    rw [fill?_cons, if_pos (fits.length ▸ inside)]
    exact ⟨filled, still⟩

theorem amend_fits {amended : Row} (fits : Fits table.columns row)
    (write : table.amend name row values = .ok amended) : Fits table.columns amended := by
  unfold amend at write
  split at write
  next => cases write
  next indices located =>
    cases write
    exact (fill_fits fits located).2

theorem project_fields (table : StoredTable) (fields : List String) (row : Row) :
    (table.project fields row).map (·.field) =
      ((table.columns.zip row).filter fun slot =>
        (fields.isEmpty || fields.contains slot.1) && slot.2.isSome).map Prod.fst := by
  unfold project
  induction table.columns.zip row with
  | nil => rfl
  | cons first rest ih =>
    obtain ⟨column, value⟩ := first
    rw [List.filterMap_cons, List.filter_cons]
    dsimp only
    cases fields.isEmpty || fields.contains column with
    | false => exact ih
    | true =>
      cases value with
      | none => exact ih
      | some value => exact congrArg (column :: ·) ih

theorem project_shows (fits : Fits table.columns row) (fields : List String) :
    Shows table.columns (table.project fields row) where
  distinct := by
    rw [project_fields, List.Nodup, List.pairwise_map, List.pairwise_filter]
    refine fits.pairwise_zip.imp fun vacant _ shown same => ?_
    rw [vacant same] at shown
    simp at shown
  ordered := by
    have listed : (table.columns.zip row).map Prod.fst = table.columns := by
      rw [← List.unzip_fst, fits.unzip_zip]
    rw [project_fields]
    conv_rhs => rw [← listed]
    exact List.filter_sublist.map Prod.fst

def Fitted (table : StoredTable) : Prop :=
  ∀ key row, table.rows.find? key = some row → Fits table.columns row

namespace Fitted

theorem create (table : Table) : (StoredTable.create table).Fitted := nofun

theorem amends (fitted : table.Fitted) (amends : table.Amends key row) : Fits table.columns row := by
  cases amends with
  | blank => exact .blank table.columns
  | held found => exact fitted key row found

theorem edited (fitted : table.Fitted) (edited : table.Edited key later) : later.Fitted := by
  intro other row found
  cases edited with
  | written amends write =>
    rw [KeyMap.find?_insert] at found
    split at found
    next =>
      cases found
      show Fits table.columns row
      exact amend_fits (fitted.amends amends) write
    next => exact fitted other row found
  | removed =>
    rw [KeyMap.find?_erase] at found
    split at found
    next => cases found
    next => exact fitted other row found

theorem read (fitted : table.Fitted) {record : Record} (read : table.read key fields = .ok record) :
    Shows table.columns record := by
  unfold StoredTable.read at read
  split at read
  next row found =>
    cases read
    exact project_shows (fitted key row found) fields
  next => cases read

theorem scan (fitted : table.Fitted) {start : String} {count : Nat} {rows : Rows}
    (scan : table.scan start count fields = .ok rows) : ∀ record ∈ rows, Shows table.columns record := by
  unfold StoredTable.scan at scan
  split at scan
  next => cases scan
  next =>
    cases scan
    intro record member
    obtain ⟨entry, found, rfl⟩ := List.mem_map.mp member
    have held := ((table.rows.mem_startingAt start).mp (List.mem_of_mem_take found)).1
    exact project_shows (fitted entry.1 entry.2 (table.rows.find?_of_mem held)) fields

end Fitted

end StoredTable

/-! ## All tables -/

variable {store later : Store} {name : String}

def Fitted (store : Store) : Prop :=
  ∀ name table, store.tables.find? name = some table → table.Fitted

def afterCalls (store : Store) (calls : List Call) : Store :=
  calls.foldl (fun store call => (store.respond call).2) store

theorem query_eq_ok {α : Type} {ask : StoredTable → Except Error α} {value : α}
    (asked : store.query name ask = .ok value) :
    ∃ table, store.tables.find? name = some table ∧ ask table = .ok value := by
  unfold query at asked
  split at asked
  next table found => exact ⟨table, found, asked⟩
  next => cases asked

namespace Fitted

theorem empty : Store.empty.Fitted := nofun

theorem create (fitted : store.Fitted) (tables : List Table) : (store.create tables).2.Fitted := by
  unfold Store.create createTables
  cases tables.find? fun table => store.tables.contains table.name with
  | some taken => exact fitted
  | none =>
    intro name table found
    rw [find?_foldl_insert, Option.or_eq_some_iff] at found
    rcases found with made | ⟨_, held⟩
    · obtain ⟨created, _, rfl⟩ := Option.map_eq_some_iff.mp made
      exact .create created
    · exact fitted name table held

theorem follows {request : Wire.Request} (fitted : store.Fitted) (follows : store.Follows request later) :
    later.Fitted := by
  intro other table found
  cases follows with
  | kept => exact fitted other table found
  | edited _ held edited =>
    rw [KeyMap.find?_insert] at found
    split at found
    next =>
      cases found
      exact (fitted _ _ held).edited edited
    next => exact fitted other table found

theorem respond (fitted : store.Fitted) (call : Call) : (store.respond call).2.Fitted := by
  cases call with
  | createTables tables => exact fitted.create tables
  | openContext => exact fitted
  | handle context request => exact fitted.follows (store.answer_follows request)

theorem afterCalls (fitted : store.Fitted) (calls : List Call) : (store.afterCalls calls).Fitted := by
  induction calls generalizing store with
  | nil => exact fitted
  | cons call rest ih => exact ih (fitted.respond call)

end Fitted

/-- What writes and projections rely on, and what a reader gets by it. -/
structure WellKept (store : Store) : Prop where
  fits : ∀ name table key row, store.tables.find? name = some table → table.rows.find? key = some row →
    Fits table.columns row
  /-- No write goes past the end of the row that it amends. -/
  inside : ∀ name table key row values indices, store.tables.find? name = some table → table.Amends key row →
    table.slots name values = .ok indices →
    StoredTable.fill? row indices values = some (StoredTable.fill row indices values)
  /-- Columns and slots are paired without a rest. -/
  paired : ∀ name table key row, store.tables.find? name = some table → table.rows.find? key = some row →
    (table.columns.zip row).unzip = (table.columns, row)
  read : ∀ name key fields record, store.read name key fields = .ok record →
    ∃ columns, store.columns? name = some columns ∧ Shows columns record
  scan : ∀ name start count fields rows, store.scan name start count fields = .ok rows →
    ∃ columns, store.columns? name = some columns ∧ ∀ record ∈ rows, Shows columns record

/-- Whatever calls were made of a new store, met or refused, its rows fit their columns. So every write stays
inside its row, and no record that is read or scanned shows a column twice. -/
theorem afterCalls_wellKept (calls : List Call) : (empty.afterCalls calls).WellKept := by
  have fitted := Fitted.empty.afterCalls calls
  constructor
  case fits => exact fun name table key row found held => fitted name table found key row held
  case inside =>
    intro name table key row values indices found amends located
    exact (StoredTable.fill_fits ((fitted name table found).amends amends) located).1
  case paired => exact fun name table key row found held => (fitted name table found key row held).unzip_zip
  case read =>
    intro name key fields record read
    obtain ⟨table, found, shown⟩ := query_eq_ok read
    exact ⟨table.columns, congrArg (Option.map StoredTable.columns) found, (fitted name table found).read shown⟩
  case scan =>
    intro name start count fields rows scan
    obtain ⟨table, found, shown⟩ := query_eq_ok scan
    exact ⟨table.columns, congrArg (Option.map StoredTable.columns) found, (fitted name table found).scan shown⟩

/-- Of two tables under one name the last one is kept, and the column that it lists twice is written and shown
once. -/
example :
    let store := empty.afterCalls [.createTables [⟨"people", ["name"]⟩, ⟨"people", ["name", "age", "name"]⟩],
      .handle default (.insert "people" "k" [⟨"age", "7"⟩, ⟨"name", "Ann"⟩]),
      .handle default (.update "people" "k" [⟨"name", "Eve"⟩, ⟨"height", "2"⟩])]
    (store.tables.find? "people").bind (·.rows.find? "k") = some [some "Ann", some "7", none] ∧
      store.read "people" "k" [] = .ok [⟨"name", "Ann"⟩, ⟨"age", "7"⟩] := by
  decide

end SharedRecords.Store
