import SharedRecords.Proofs.KeyMap
import SharedRecords.Proofs.Store.Reference

/-!
The store answers as the reference does. A row is the layout of the cells it stands for: one slot
for each column, where a column that was listed before has an empty slot. What one call keeps of
this correspondence, all calls keep.
-/

namespace SharedRecords.Store

/-! ## Rows and cells -/

def layoutFrom (seen : List String) : List String → Cells → Row
  | [], _ => []
  | column :: rest, cells =>
    (if column ∈ seen then none else cells.lookup column) :: layoutFrom (column :: seen) rest cells

def layout (columns : List String) (cells : Cells) : Row := layoutFrom [] columns cells

theorem layoutFrom_empty (seen columns : List String) :
    layoutFrom seen columns ∅ = List.replicate columns.length none := by
  induction columns generalizing seen with
  | nil => rfl
  | cons column rest ih =>
    rw [layoutFrom, ih, Finmap.lookup_empty, ite_self, List.length_cons, List.replicate_succ]

theorem layoutFrom_insert_of_mem {seen : List String} {column : String} (known : column ∈ seen)
    (columns : List String) (cells : Cells) (value : String) :
    layoutFrom seen columns (cells.insert column value) = layoutFrom seen columns cells := by
  induction columns generalizing seen with
  | nil => rfl
  | cons first rest ih =>
    rw [layoutFrom, layoutFrom, ih (List.mem_cons_of_mem _ known)]
    by_cases same : first = column
    · rw [same, if_pos known, if_pos known]
    · rw [Finmap.lookup_insert_of_ne _ same]

theorem layoutFrom_set {seen columns : List String} {column : String} {index : Nat}
    (fresh : column ∉ seen) (found : columns.findIdx? (· == column) = some index) (cells : Cells)
    (value : String) :
    (layoutFrom seen columns cells).set index (some value) =
      layoutFrom seen columns (cells.insert column value) := by
  induction columns generalizing seen index with
  | nil => simp at found
  | cons first rest ih =>
    by_cases same : first = column
    · subst same
      rw [List.findIdx?_cons, if_pos (by simp)] at found
      cases found
      rw [layoutFrom, layoutFrom, List.set_cons_zero, if_neg fresh, Finmap.lookup_insert,
        layoutFrom_insert_of_mem List.mem_cons_self]
    · rw [List.findIdx?_cons, if_neg (by simpa using same)] at found
      obtain ⟨later, located, rfl⟩ := Option.map_eq_some_iff.mp found
      -- the column is still to come, so its slot is not one of those kept empty
      have unseen : column ∉ first :: seen := by
        rw [List.mem_cons, not_or]
        exact ⟨Ne.symm same, fresh⟩
      rw [layoutFrom, layoutFrom, List.set_cons_succ, ih unseen located,
        Finmap.lookup_insert_of_ne _ same]

theorem project_layoutFrom (seen columns fields : List String) (cells : Cells) :
    ((columns.zip (layoutFrom seen columns cells)).filterMap fun (column, value) =>
      if fields.isEmpty || fields.contains column then value.map (⟨column, ·⟩) else none) =
        cells.visible (columns.filter (· ∉ seen)) fields := by
  induction columns generalizing seen with
  | nil => rfl
  | cons column rest ih =>
    have wanted : (fields.isEmpty || fields.contains column) = true ↔ fields = [] ∨ column ∈ fields := by
      simp
    rw [layoutFrom, List.zip_cons_cons, List.filterMap_cons, ih]
    -- a column that was listed before shows nothing, and the cells do not list it again
    by_cases known : column ∈ seen
    · have same : rest.filter (· ∉ column :: seen) = rest.filter (· ∉ seen) := by
        apply List.filter_congr
        intro other _
        by_cases hit : other = column
        · simp [hit, known]
        · simp [hit]
      rw [List.filter_cons_of_neg (by simpa using known), same]
      simp only [if_pos known, Option.map_none, ite_self]
    · have same : (rest.filter (· ∉ seen)).filter (fun other => !other == column) =
          rest.filter (· ∉ column :: seen) := by
        rw [List.filter_filter]
        apply List.filter_congr
        intro other _
        by_cases hit : other = column
        · simp [hit]
        · simp [hit]
      rw [List.filter_cons_of_pos (by simpa using known)]
      simp only [if_neg known, Cells.visible, List.eraseDups_cons, List.filterMap_cons, same, wanted]

namespace StoredTable

theorem project_layout (table : StoredTable) (fields : List String) (cells : Cells) :
    table.project fields (layout table.columns cells) = cells.visible table.columns fields := by
  have shown := project_layoutFrom [] table.columns fields cells
  have every : table.columns.filter (· ∉ ([] : List String)) = table.columns :=
    List.filter_eq_self.mpr fun column _ => by simp
  rw [every] at shown
  exact shown

theorem blankRow_eq (table : StoredTable) : table.blankRow = layout table.columns ∅ :=
  (layoutFrom_empty [] table.columns).symm

theorem slot_of_mem (table : StoredTable) (name : String) {column : String} (known : column ∈ table.columns) :
    ∃ index, table.slot name column = .ok index ∧ table.columns.findIdx? (· == column) = some index := by
  have found : (table.columns.findIdx? (· == column)).isSome := by
    rw [List.findIdx?_isSome, List.any_eq_true]
    exact ⟨column, known, by simp⟩
  obtain ⟨index, located⟩ := Option.isSome_iff_exists.mp found
  exact ⟨index, by rw [slot, located], located⟩

theorem slot_of_not_mem (table : StoredTable) (name : String) {column : String}
    (unknown : column ∉ table.columns) : table.slot name column = .error (.unknownColumn name column) := by
  have nowhere : table.columns.findIdx? (· == column) = none := by
    rw [List.findIdx?_eq_none_iff]
    intro other member
    have apart : other ≠ column := fun same => unknown (same ▸ member)
    simpa using apart
  rw [slot, nowhere]

/-- The first field that is no column refuses a write; else the row comes to stand for the cells
written. -/
theorem slots_layout (table : StoredTable) (name : String) (values : Record) :
    match (values.map (·.field)).find? (· ∉ table.columns) with
    | some field => table.slots name values = .error (.unknownColumn name field)
    | none => ∃ indices, table.slots name values = .ok indices ∧
        ∀ cells, fill (layout table.columns cells) indices values = layout table.columns (cells.write values) := by
  induction values with
  | nil => exact ⟨[], rfl, fun cells => rfl⟩
  | cons pair rest ih =>
    by_cases known : pair.field ∈ table.columns
    · obtain ⟨index, located, place⟩ := table.slot_of_mem name known
      rw [List.map_cons, List.find?_cons_of_neg (by simpa using known)]
      cases strange : (rest.map (·.field)).find? (· ∉ table.columns) with
      | some field =>
        rw [strange] at ih
        simp only [slots, located, ih]
      | none =>
        rw [strange] at ih
        obtain ⟨others, resolved, filled⟩ := ih
        refine ⟨index :: others, by simp only [slots, located, resolved], fun cells => ?_⟩
        have first := layoutFrom_set (List.not_mem_nil) place cells pair.value
        have later := filled (cells.insert pair.field pair.value)
        rw [← layout, ← layout] at first
        rw [← first] at later
        exact later
    · rw [List.map_cons, List.find?_cons_of_pos (by simpa using known)]
      simp only [slots, table.slot_of_not_mem name known]

end StoredTable

/-! ## Tables -/

/-- Two results agree if both are the same refusal or both are related values. -/
inductive Agrees {α β : Type} (related : α → β → Prop) : Except Error α → Except Error β → Prop
  | refused (error : Error) : Agrees related (.error error) (.error error)
  | done {first : α} {second : β} (holds : related first second) : Agrees related (.ok first) (.ok second)

namespace StoredTable

/-- The table has the columns of the reference, and under each key the row that stands for the
cells there. -/
structure Holds (stored : StoredTable) (table : Reference.Table) : Prop where
  columns : stored.columns = table.columns
  rows : ∀ key, stored.rows.find? key = (table.rows.lookup key).map (layout table.columns)

namespace Holds

variable {stored : StoredTable} {table : Reference.Table}

theorem contains_iff (holds : stored.Holds table) (key : String) :
    stored.rows.contains key = true ↔ key ∈ table.rows := by
  rw [KeyMap.contains, holds.rows, Option.isSome_map, Finmap.lookup_isSome]

theorem project (holds : stored.Holds table) (fields : List String) (cells : Cells) :
    stored.project fields (layout table.columns cells) = cells.visible table.columns fields := by
  rw [← holds.columns]
  exact stored.project_layout fields cells

theorem read (holds : stored.Holds table) (key : String) (fields : List String) :
    stored.read key fields = table.read key fields := by
  unfold StoredTable.read Reference.Table.read
  rw [holds.rows]
  cases table.rows.lookup key with
  | none => rfl
  | some cells => exact congrArg Except.ok (holds.project fields cells)

theorem keys_range (holds : stored.Holds table) (start : String) (count : Nat) :
    ((stored.rows.startingAt start).take count).map (·.1) = table.range start count := by
  have same : ∀ key, key ∈ table.rows.keys ↔ stored.rows.find? key ≠ none := by
    intro key
    rw [Finmap.mem_keys, ← holds.contains_iff, KeyMap.contains_iff]
  rw [List.map_take, stored.rows.keys_startingAt start same, Reference.Table.range]

theorem scan (holds : stored.Holds table) (start : String) (count : Nat) (fields : List String) :
    stored.scan start count fields = table.scan start count fields := by
  have keys := holds.keys_range start count
  unfold StoredTable.scan Reference.Table.scan
  cases found : (stored.rows.startingAt start).take count with
  | nil =>
    rw [found] at keys
    rw [if_pos (show table.range start count = [] from keys.symm)]
  | cons first rest =>
    have held : ∀ entry ∈ first :: rest, entry ∈ stored.rows.entries := by
      intro entry member
      rw [← found] at member
      exact ((stored.rows.mem_startingAt start).mp (List.mem_of_mem_take member)).1
    have records := stored.rows.map_entries_eq (stored.project fields) held
    rw [found] at keys
    rw [keys] at records
    have some_range : table.range start count ≠ [] := by
      rw [← keys, List.map_cons]
      exact List.cons_ne_nil _ _
    rw [if_neg some_range]
    refine congrArg Except.ok (records.trans ?_)
    apply List.filterMap_congr
    intro key _
    rw [holds.rows, Option.map_map]
    congr 1
    funext cells
    exact holds.project fields cells

theorem write (holds : stored.Holds table) (key : String) (cells : Cells) :
    { stored with rows := stored.rows.insert key (layout table.columns cells) }.Holds
      { table with rows := table.rows.insert key cells } where
  columns := holds.columns
  rows other := by
    rw [KeyMap.find?_insert]
    by_cases same : other = key
    · rw [if_pos same, same, Finmap.lookup_insert, Option.map_some]
    · rw [if_neg same, Finmap.lookup_insert_of_ne _ same, holds.rows]

theorem put (holds : stored.Holds table) (name key : String) (cells : Cells) (values : Record) :
    Agrees Holds
      (match stored.amend name (layout table.columns cells) values with
        | .error error => .error error
        | .ok row => .ok { stored with rows := stored.rows.insert key row })
      (table.put name key cells values) := by
  have resolved := stored.slots_layout name values
  rw [holds.columns] at resolved
  unfold StoredTable.amend Reference.Table.put Reference.Table.stranger?
  cases strange : (values.map (·.field)).find? (· ∉ table.columns) with
  | some field =>
    rw [strange] at resolved
    rw [resolved]
    exact .refused _
  | none =>
    rw [strange] at resolved
    obtain ⟨indices, located, filled⟩ := resolved
    rw [located]
    simp only [filled]
    exact .done (holds.write key _)

theorem insert (holds : stored.Holds table) (name key : String) (values : Record) :
    Agrees Holds (stored.insert name key values) (table.insert name key values) := by
  have blank : stored.blankRow = layout table.columns ∅ := by rw [blankRow_eq, holds.columns]
  unfold StoredTable.insert Reference.Table.insert
  by_cases taken : key ∈ table.rows
  · rw [if_pos taken, if_pos ((holds.contains_iff key).mpr taken)]
    exact .refused _
  · rw [if_neg taken, if_neg fun held => taken ((holds.contains_iff key).mp held), blank]
    exact holds.put name key ∅ values

theorem update (holds : stored.Holds table) (name key : String) (values : Record) :
    Agrees Holds (stored.update name key values) (table.update name key values) := by
  unfold StoredTable.update Reference.Table.update
  rw [holds.rows]
  cases table.rows.lookup key with
  | none => exact .refused _
  | some cells => exact holds.put name key cells values

theorem delete (holds : stored.Holds table) (key : String) :
    Agrees Holds (stored.delete key) (table.delete key) := by
  unfold StoredTable.delete Reference.Table.delete
  by_cases taken : key ∈ table.rows
  · rw [if_pos taken, if_pos ((holds.contains_iff key).mpr taken)]
    refine .done ⟨holds.columns, fun other => ?_⟩
    rw [KeyMap.find?_erase]
    by_cases same : other = key
    · rw [if_pos same, same, Finmap.lookup_erase, Option.map_none]
    · rw [if_neg same, Finmap.lookup_erase_ne same, holds.rows]
  · rw [if_neg taken, if_neg fun held => taken ((holds.contains_iff key).mp held)]
    exact .refused _

end Holds

end StoredTable

/-! ## Stores -/

/-- The store has the tables of the reference and has handed out as many contexts. -/
structure Holds (store : Store) (reference : Reference) : Prop where
  tables : ∀ name, Option.Rel StoredTable.Holds (store.tables.find? name) (reference.tables.lookup name)
  opened : store.opened = reference.opened

namespace Holds

variable {store : Store} {reference : Reference}

theorem lookup (holds : store.Holds reference) (name : String) :
    (store.tables.find? name = none ∧ reference.tables.lookup name = none) ∨
      ∃ stored table, store.tables.find? name = some stored ∧ reference.tables.lookup name = some table ∧
        stored.Holds table := by
  have related := holds.tables name
  generalize store.tables.find? name = found at related ⊢
  generalize reference.tables.lookup name = looked at related ⊢
  cases related with
  | none => exact .inl ⟨rfl, rfl⟩
  | some same => exact .inr ⟨_, _, rfl, rfl, same⟩

theorem contains_iff (holds : store.Holds reference) (name : String) :
    store.tables.contains name = true ↔ name ∈ reference.tables := by
  rw [KeyMap.contains, ← Finmap.lookup_isSome]
  obtain ⟨absent, missing⟩ | ⟨stored, table, found, looked, _⟩ := holds.lookup name
  · rw [absent, missing]
    exact Iff.rfl
  · rw [found, looked]
    exact Iff.rfl

theorem query {α : Type} (holds : store.Holds reference) (name : String)
    {ask : StoredTable → Except Error α} {question : Reference.Table → Except Error α}
    (same : ∀ stored table, stored.Holds table → ask stored = question table) :
    store.query name ask = reference.ask name question := by
  unfold Store.query Reference.ask
  obtain ⟨absent, missing⟩ | ⟨stored, table, found, looked, related⟩ := holds.lookup name
  · rw [absent, missing]
  · rw [found, looked]
    exact same stored table related

theorem write (holds : store.Holds reference) (name : String) {stored : StoredTable}
    {table : Reference.Table} (related : stored.Holds table) :
    { store with tables := store.tables.insert name stored }.Holds
      { reference with tables := reference.tables.insert name table } where
  opened := holds.opened
  tables other := by
    rw [KeyMap.find?_insert]
    by_cases same : other = name
    · rw [if_pos same, same, Finmap.lookup_insert]
      exact .some related
    · rw [if_neg same, Finmap.lookup_insert_of_ne _ same]
      exact holds.tables other

theorem change (holds : store.Holds reference) (name : String)
    {edit : StoredTable → Except Error StoredTable}
    {correction : Reference.Table → Except Error Reference.Table}
    (agree : ∀ stored table, stored.Holds table → Agrees StoredTable.Holds (edit stored) (correction table)) :
    (store.settle (store.change name edit)).1 = (reference.change name correction).1 ∧
      (store.settle (store.change name edit)).2.Holds (reference.change name correction).2 := by
  unfold Store.change Reference.change Store.query Reference.ask
  obtain ⟨absent, missing⟩ | ⟨stored, table, found, looked, related⟩ := holds.lookup name
  · rw [absent, missing]
    exact ⟨rfl, holds⟩
  · rw [found, looked]
    have agreed := agree stored table related
    simp only
    generalize edit stored = edited at agreed ⊢
    generalize correction table = corrected at agreed ⊢
    cases agreed with
    | refused error => exact ⟨rfl, holds⟩
    | done later => exact ⟨rfl, holds.write name later⟩

theorem createAll (tables : List Table) (holds : store.Holds reference) :
    Store.Holds
      { store with
        tables := tables.foldl (fun held (table : Table) => held.insert table.name (.create table))
          store.tables }
      { reference with
        tables := tables.foldl (fun held (table : Table) => held.insert table.name ⟨table.columns, ∅⟩)
          reference.tables } := by
  induction tables generalizing store reference with
  | nil => exact holds
  | cons table rest ih =>
    have fresh : (StoredTable.create table).Holds ⟨table.columns, ∅⟩ := by
      refine ⟨rfl, fun key => ?_⟩
      rw [Finmap.lookup_empty]
      rfl
    exact ih (holds.write table.name fresh)

theorem taken (holds : store.Holds reference) (tables : List Table) :
    (tables.find? (fun table => store.tables.contains table.name)).map (·.name) =
      (tables.map (·.name)).find? (· ∈ reference.tables) := by
  rw [List.find?_map]
  congr 2
  funext table
  exact Bool.eq_iff_iff.mpr ((holds.contains_iff table.name).trans decide_eq_true_iff.symm)

theorem create (holds : store.Holds reference) (tables : List Table) :
    (store.create tables).1 = (reference.create tables).1 ∧
      (store.create tables).2.Holds (reference.create tables).2 := by
  have named := holds.taken tables
  unfold Store.create Store.createTables Reference.create
  cases found : tables.find? (fun table => store.tables.contains table.name) with
  | some taken =>
    rw [found, Option.map_some] at named
    rw [← named]
    exact ⟨rfl, holds⟩
  | none =>
    rw [found, Option.map_none] at named
    rw [← named]
    exact ⟨rfl, holds.createAll tables⟩

theorem handle (holds : store.Holds reference) (context : Context) (request : Wire.Request) :
    (store.handle context request).1 = (reference.handle context request).1 ∧
    (store.handle context request).2.1 = (reference.handle context request).2.1 ∧
    (store.handle context request).2.2.Holds (reference.handle context request).2.2 := by
  cases request with
  | read table key fields =>
    have same := holds.query table fun _ _ related => related.read key fields
    exact ⟨congrArg (Except.map Wire.Reply.record) same, rfl, holds⟩
  | scan table start count fields =>
    have same := holds.query table fun _ _ related => related.scan start count.toNat fields
    exact ⟨congrArg (Except.map Wire.Reply.rows) same, rfl, holds⟩
  | insert table key values =>
    obtain ⟨outcome, later⟩ := holds.change table fun _ _ related => related.insert table key values
    exact ⟨outcome, rfl, later⟩
  | update table key values =>
    obtain ⟨outcome, later⟩ := holds.change table fun _ _ related => related.update table key values
    exact ⟨outcome, rfl, later⟩
  | delete table key =>
    obtain ⟨outcome, later⟩ := holds.change table fun _ _ related => related.delete key
    exact ⟨outcome, rfl, later⟩
  | close => exact ⟨rfl, rfl, holds⟩

theorem respond (holds : store.Holds reference) (call : Call) :
    (store.respond call).1 = (reference.respond call).1 ∧
      (store.respond call).2.Holds (reference.respond call).2 := by
  cases call with
  | createTables tables =>
    obtain ⟨result, later⟩ := holds.create tables
    exact ⟨congrArg Answer.created result, later⟩
  | openContext =>
    have context : store.openContext.1 = ⟨reference.opened, 0, 0, 0⟩ := by
      rw [← holds.opened]
      rfl
    exact ⟨congrArg Answer.opened context, holds.tables, congrArg (· + 1) holds.opened⟩
  | handle context request =>
    obtain ⟨outcome, counted, later⟩ := holds.handle context request
    exact ⟨congr (congrArg Answer.handled outcome) counted, later⟩

theorem answers (holds : store.Holds reference) (calls : List Call) :
    store.answers calls = reference.answers calls := by
  induction calls generalizing store reference with
  | nil => rfl
  | cons call rest ih =>
    obtain ⟨answer, later⟩ := holds.respond call
    rw [Store.answers, Reference.answers, answer, ih later]

end Holds

theorem empty_holds : empty.Holds Reference.empty := by
  refine ⟨fun name => ?_, rfl⟩
  unfold Store.empty Reference.empty
  rw [KeyMap.find?_empty, Finmap.lookup_empty]
  exact .none

/-- Whatever calls are made of a new store, in any order and with any contexts, it answers them all
as the reference does. -/
theorem answers_eq_reference (calls : List Call) :
    Store.empty.answers calls = Reference.empty.answers calls :=
  empty_holds.answers calls

end SharedRecords.Store
