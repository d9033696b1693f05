import SharedRecords.Proofs.Store.Edits
import SharedRecords.Proofs.Store.Refinement

/-!
The columns of a table, seen from outside: which fields a store takes under a name, and which it gives
back in which order. A table keeps its columns whatever is asked of it, and of several tables created
under one name the last one counts.
-/

namespace SharedRecords

/-! ## Writing every column -/

namespace Cells

theorem lookup_write_of_mem (cells : Cells) {columns : List String} (value : String → String)
    {column : String} (written : (column ∈ columns) ∨ cells.lookup column = some (value column)) :
    (cells.write (columns.map fun column => ⟨column, value column⟩)).lookup column = some (value column) := by
  induction columns generalizing cells with
  | nil => exact written.resolve_left (List.not_mem_nil)
  | cons first rest ih =>
    refine ih (cells.insert first (value first)) ?_
    by_cases here : column = first
    · exact .inr (here ▸ Finmap.lookup_insert _)
    · rw [Finmap.lookup_insert_of_ne _ here]
      exact written.imp_left fun member => (List.mem_cons.mp member).resolve_left here

theorem visible_sublist (cells : Cells) (columns fields : List String) :
    ((cells.visible columns fields).map (·.field)).Sublist columns.eraseDups := by
  unfold visible
  induction columns.eraseDups with
  | nil => exact .slnil
  | cons column rest ih =>
    rw [List.filterMap_cons]
    split
    next => exact ih.cons column
    next pair shown =>
      have named : pair.field = column := by
        split at shown
        · obtain ⟨value, _, rfl⟩ := Option.map_eq_some_iff.mp shown
          rfl
        · cases shown
      rw [List.map_cons, named]
      exact ih.cons_cons column

theorem visible_of_write (cells : Cells) (columns : List String) (value : String → String) :
    (cells.write (columns.eraseDups.map fun column => ⟨column, value column⟩)).visible columns [] =
      columns.eraseDups.map fun column => ⟨column, value column⟩ := by
  unfold visible
  refine (List.filterMap_congr fun column member => ?_).trans (congrFun List.filterMap_eq_map _)
  have written := cells.lookup_write_of_mem value (.inl member)
  rw [if_pos (.inl rfl), written]
  rfl

end Cells

theorem isOk_iff_exists {ε α : Type} {result : Except ε α} : result.isOk ↔ ∃ value, result = .ok value := by
  cases result with
  | ok value => exact ⟨fun _ => ⟨value, rfl⟩, fun _ => rfl⟩
  | error => exact ⟨nofun, nofun⟩

namespace Reference.Table

variable {table later : Table} {name key : String} {cells : Cells} {values : Record}

theorem put_eq_ok_iff : table.put name key cells values = .ok later ↔
    (∀ pair ∈ values, pair.field ∈ table.columns) ∧
      later = { table with rows := table.rows.insert key (cells.write values) } := by
  unfold put stranger?
  cases strange : (values.map (·.field)).find? (· ∉ table.columns) with
  | some field =>
    obtain ⟨pair, member, rfl⟩ := List.mem_map.mp (List.mem_of_find?_eq_some strange)
    have outside : pair.field ∉ table.columns := by simpa using List.find?_some strange
    exact ⟨nofun, fun admitted => absurd (admitted.1 pair member) outside⟩
  | none =>
    have inside : ∀ pair ∈ values, pair.field ∈ table.columns := by simpa using strange
    exact ⟨fun put => ⟨inside, (Except.ok.inj put).symm⟩, fun admitted => congrArg Except.ok admitted.2.symm⟩

theorem insert_eq_ok_iff : table.insert name key values = .ok later ↔
    key ∉ table.rows ∧ (∀ pair ∈ values, pair.field ∈ table.columns) ∧
      later = { table with rows := table.rows.insert key (Cells.write ∅ values) } := by
  unfold insert
  by_cases taken : key ∈ table.rows
  · rw [if_pos taken]
    exact ⟨nofun, fun admitted => absurd taken admitted.1⟩
  · rw [if_neg taken, put_eq_ok_iff]
    exact ⟨fun put => ⟨taken, put⟩, And.right⟩

theorem update_eq_ok_iff : table.update name key values = .ok later ↔
    ∃ cells, table.rows.lookup key = some cells ∧ (∀ pair ∈ values, pair.field ∈ table.columns) ∧
      later = { table with rows := table.rows.insert key (cells.write values) } := by
  unfold update
  cases table.rows.lookup key with
  | none => exact ⟨nofun, nofun⟩
  | some cells =>
    rw [put_eq_ok_iff]
    constructor
    · exact fun put => ⟨cells, rfl, put⟩
    · rintro ⟨_, same, put⟩
      exact Option.some.inj same ▸ put

theorem insert_isOk_iff : (table.insert name key values).isOk ↔
    key ∉ table.rows ∧ ∀ pair ∈ values, pair.field ∈ table.columns := by
  rw [isOk_iff_exists]
  constructor
  · rintro ⟨_, inserted⟩
    obtain ⟨free, known, _⟩ := insert_eq_ok_iff.mp inserted
    exact ⟨free, known⟩
  · rintro ⟨free, known⟩
    exact ⟨_, insert_eq_ok_iff.mpr ⟨free, known, rfl⟩⟩

theorem update_isOk_iff : (table.update name key values).isOk ↔
    key ∈ table.rows ∧ ∀ pair ∈ values, pair.field ∈ table.columns := by
  rw [isOk_iff_exists, ← Finmap.lookup_isSome, Option.isSome_iff_exists]
  constructor
  · rintro ⟨_, updated⟩
    obtain ⟨cells, found, known, _⟩ := update_eq_ok_iff.mp updated
    exact ⟨⟨cells, found⟩, known⟩
  · rintro ⟨⟨cells, found⟩, known⟩
    exact ⟨_, update_eq_ok_iff.mpr ⟨cells, found, known, rfl⟩⟩

theorem read_isOk_iff (fields : List String) : (table.read key fields).isOk ↔ key ∈ table.rows := by
  unfold read
  rw [← Finmap.lookup_isSome]
  cases table.rows.lookup key with
  | none => exact ⟨nofun, nofun⟩
  | some cells => exact ⟨fun _ => rfl, fun _ => rfl⟩

theorem range_one (held : key ∈ table.rows) : table.range key 1 = [key] := by
  unfold range
  have member : key ∈ (table.rows.keys.filter (key ≤ ·)).sort := by
    rw [Finset.mem_sort, Finset.mem_filter, Finmap.mem_keys]
    exact ⟨held, le_refl key⟩
  have bound : ∀ other ∈ (table.rows.keys.filter (key ≤ ·)).sort, key ≤ other := by
    intro other inside
    rw [Finset.mem_sort, Finset.mem_filter] at inside
    exact inside.2
  have sorted := (table.rows.keys.filter (key ≤ ·)).pairwise_sort (· ≤ ·)
  cases listed : (table.rows.keys.filter (key ≤ ·)).sort with
  | nil => simp [listed] at member
  | cons least rest =>
    rw [listed] at member bound sorted
    have below : least ≤ key := by
      rcases List.mem_cons.mp member with same | inside
      · exact same.ge
      · exact List.rel_of_pairwise_cons sorted inside
    rw [List.take_succ_cons, List.take_zero, le_antisymm below (bound least List.mem_cons_self)]

theorem read_sublist {fields : List String} {record : Record} (read : table.read key fields = .ok record) :
    (record.map (·.field)).Sublist table.columns.eraseDups := by
  unfold Table.read at read
  split at read
  next cells _ =>
    cases read
    exact cells.visible_sublist table.columns fields
  next => cases read

theorem scan_sublist {start : String} {count : Nat} {fields : List String} {rows : Rows}
    (scan : table.scan start count fields = .ok rows) :
    ∀ record ∈ rows, (record.map (·.field)).Sublist table.columns.eraseDups := by
  unfold Table.scan at scan
  split at scan
  next => cases scan
  next =>
    cases scan
    intro record member
    obtain ⟨_, _, shown⟩ := List.mem_filterMap.mp member
    obtain ⟨cells, _, rfl⟩ := Option.map_eq_some_iff.mp shown
    exact cells.visible_sublist table.columns fields

theorem shown_of_write (cells : Cells) (value : String → String)
    (written : later = ⟨table.columns, table.rows.insert key
      (cells.write (table.columns.eraseDups.map fun column => ⟨column, value column⟩))⟩) :
    later.read key [] = .ok (table.columns.eraseDups.map fun column => ⟨column, value column⟩) ∧
      later.scan key 1 [] = .ok [table.columns.eraseDups.map fun column => ⟨column, value column⟩] := by
  subst written
  have shown := cells.visible_of_write table.columns value
  have found := Finmap.lookup_insert (a := key)
    (b := cells.write (table.columns.eraseDups.map fun column => ⟨column, value column⟩)) table.rows
  constructor
  · rw [Table.read, found]
    exact congrArg Except.ok shown
  · rw [Table.scan, range_one (Finmap.mem_insert.mpr (.inl rfl)), if_neg (List.cons_ne_nil _ _),
      List.filterMap_cons, found, Option.map_some, shown]
    rfl

end Reference.Table

namespace Store

variable {store later : Store} {reference : Reference} {name key : String} {values : Record}

/-! ## What a store offers under a name -/

/-- Under this name the store takes and gives these columns: a record is written exactly if each of its
fields is among them, and one that is read or scanned has them in their order, each at most once, and
all of them once all have been written. -/
structure Offers (store : Store) (name : String) (columns : List String) : Prop where
  insert : ∀ key values, (store.insert name key values).isOk ↔
    ¬ (store.read name key []).isOk ∧ ∀ pair ∈ values, pair.field ∈ columns
  update : ∀ key values, (store.update name key values).isOk ↔
    (store.read name key []).isOk ∧ ∀ pair ∈ values, pair.field ∈ columns
  read : ∀ key fields record, store.read name key fields = .ok record →
    (record.map (·.field)).Sublist columns.eraseDups
  scan : ∀ start count fields rows, store.scan name start count fields = .ok rows →
    ∀ record ∈ rows, (record.map (·.field)).Sublist columns.eraseDups
  complete : ∀ key (value : String → String) later,
    store.insert name key (columns.eraseDups.map fun column => ⟨column, value column⟩) = .ok later ∨
      store.update name key (columns.eraseDups.map fun column => ⟨column, value column⟩) = .ok later →
    later.read name key [] = .ok (columns.eraseDups.map fun column => ⟨column, value column⟩) ∧
    later.scan name key 1 [] = .ok [columns.eraseDups.map fun column => ⟨column, value column⟩]

theorem Offers.of_eraseDups {columns others : List String} (offers : store.Offers name columns)
    (same : columns.eraseDups = others.eraseDups) : store.Offers name others := by
  have alike (column : String) : column ∈ columns ↔ column ∈ others := by
    rw [← List.mem_eraseDups, same, List.mem_eraseDups]
  obtain ⟨insert, update, read, scan, complete⟩ := offers
  simp only [alike, same] at insert update read scan complete
  exact ⟨insert, update, read, scan, complete⟩

theorem isOk_settle (store : Store) (result : Except Error Store) :
    (store.settle result).1.isOk = result.isOk := by
  cases result with
  | ok => rfl
  | error => rfl

namespace Holds

variable {table : Reference.Table}

theorem change_isOk (holds : store.Holds reference) (found : reference.tables.lookup name = some table)
    {edit : StoredTable → Except Error StoredTable}
    {correction : Reference.Table → Except Error Reference.Table}
    (agree : ∀ stored table, stored.Holds table → Agrees StoredTable.Holds (edit stored) (correction table)) :
    (store.change name edit).isOk = (correction table).isOk := by
  rw [← isOk_settle store, (holds.change name agree).1]
  unfold Reference.change Reference.ask
  simp only [found]
  cases correction table with
  | ok => rfl
  | error => rfl

theorem read (holds : store.Holds reference) (found : reference.tables.lookup name = some table)
    (key : String) (fields : List String) : store.read name key fields = table.read key fields := by
  have same := holds.query name fun _ _ related => related.read key fields
  unfold Reference.ask at same
  rw [found] at same
  exact same

theorem scan (holds : store.Holds reference) (found : reference.tables.lookup name = some table)
    (start : String) (count : Nat) (fields : List String) :
    store.scan name start count fields = table.scan start count fields := by
  have same := holds.query name fun _ _ related => related.scan start count fields
  unfold Reference.ask at same
  rw [found] at same
  exact same

theorem of_change (holds : store.Holds reference) (found : reference.tables.lookup name = some table)
    {edit : StoredTable → Except Error StoredTable}
    {correction : Reference.Table → Except Error Reference.Table}
    (agree : ∀ stored table, stored.Holds table → Agrees StoredTable.Holds (edit stored) (correction table))
    (changed : store.change name edit = .ok later) :
    ∃ edited, correction table = .ok edited ∧
      later.Holds { reference with tables := reference.tables.insert name edited } := by
  have made : (correction table).isOk := by
    rw [← holds.change_isOk found agree, changed]
    rfl
  obtain ⟨edited, corrected⟩ := isOk_iff_exists.mp made
  have related := (holds.change name agree).2
  unfold Reference.change Reference.ask at related
  simp only [changed, found, corrected] at related
  exact ⟨edited, corrected, related⟩

theorem offers (holds : store.Holds reference) (found : reference.tables.lookup name = some table) :
    store.Offers name table.columns where
  insert key values := by
    have accepts := holds.change_isOk found fun _ _ related => related.insert name key values
    rw [Store.insert, accepts, holds.read found, Reference.Table.read_isOk_iff]
    exact Reference.Table.insert_isOk_iff
  update key values := by
    have accepts := holds.change_isOk found fun _ _ related => related.update name key values
    rw [Store.update, accepts, holds.read found, Reference.Table.read_isOk_iff]
    exact Reference.Table.update_isOk_iff
  read key fields record read := by
    rw [holds.read found] at read
    exact Reference.Table.read_sublist read
  scan start count fields rows scan := by
    rw [holds.scan found] at scan
    exact Reference.Table.scan_sublist scan
  complete key value later written := by
    have made : ∃ (cells : Cells) (edited : Reference.Table), edited = ⟨table.columns, table.rows.insert key
          (cells.write (table.columns.eraseDups.map fun column => ⟨column, value column⟩))⟩ ∧
        later.Holds { reference with tables := reference.tables.insert name edited } := by
      rcases written with inserted | updated
      · obtain ⟨edited, made, related⟩ :=
          holds.of_change found (fun _ _ related => related.insert name key _) inserted
        exact ⟨∅, edited, (Reference.Table.insert_eq_ok_iff.mp made).2.2, related⟩
      · obtain ⟨edited, made, related⟩ :=
          holds.of_change found (fun _ _ related => related.update name key _) updated
        obtain ⟨cells, _, _, same⟩ := Reference.Table.update_eq_ok_iff.mp made
        exact ⟨cells, edited, same, related⟩
    obtain ⟨cells, edited, same, related⟩ := made
    obtain ⟨read, scanned⟩ := Reference.Table.shown_of_write cells value same
    rw [related.read (Finmap.lookup_insert _), related.scan (Finmap.lookup_insert _)]
    exact ⟨read, scanned⟩

end Holds

/-! ## The columns a store keeps -/

def columns? (store : Store) (name : String) : Option (List String) :=
  (store.tables.find? name).map (·.columns)

def after (store : Store) (requests : List Wire.Request) : Store :=
  requests.foldl (fun store request => (store.answer request).2) store

theorem Follows.columns {request : Wire.Request} (follows : store.Follows request later) (name : String) :
    later.columns? name = store.columns? name := by
  cases follows with
  | kept => rfl
  | edited _ found edited =>
    simp only [columns?, KeyMap.find?_insert]
    split
    next same => rw [same, found, Option.map_some, Option.map_some, edited.columns]
    next => rfl

theorem Holds.offers_after (holds : store.Holds reference) {columns : List String}
    (known : store.columns? name = some columns) (requests : List Wire.Request) :
    (store.after requests).Offers name columns := by
  induction requests generalizing store reference with
  | nil =>
    obtain ⟨stored, found, rfl⟩ := Option.map_eq_some_iff.mp known
    obtain ⟨absent, _⟩ | ⟨_, table, held, looked, related⟩ := holds.lookup name
    · rw [found] at absent
      cases absent
    · obtain rfl := Option.some.inj (found.symm.trans held)
      rw [related.columns]
      exact holds.offers looked
  | cons request rest ih =>
    have later := (holds.handle default request).2.2
    exact ih later (((store.answer_follows request).columns name).trans known)

theorem find?_foldl_insert (tables : List Table) (held : KeyMap StoredTable) (name : String) :
    (tables.foldl (fun held table => held.insert table.name (.create table)) held).find? name =
      ((tables.reverse.find? (·.name == name)).map .create).or (held.find? name) := by
  induction tables generalizing held with
  | nil => rfl
  | cons table rest ih =>
    rw [List.foldl_cons, ih, KeyMap.find?_insert, List.reverse_cons, List.find?_append]
    cases rest.reverse.find? (·.name == name) with
    | some last => rfl
    | none =>
      by_cases same : name = table.name
      · simp [same]
      · simp [same, Ne.symm same]

theorem createTables_bare (bare : store.tables = .empty) (tables : List Table) :
    ∃ created, store.createTables tables = .ok created ∧
      created.Holds (Reference.create ⟨∅, store.opened⟩ tables).2 ∧
      ∀ name, created.tables.find? name = (tables.reverse.find? (·.name == name)).map .create := by
  have holds : store.Holds ⟨∅, store.opened⟩ := by
    refine ⟨fun name => ?_, rfl⟩
    rw [bare, KeyMap.find?_empty, Finmap.lookup_empty]
    exact .none
  have related := (holds.create tables).2
  have untaken : tables.find? (fun table => store.tables.contains table.name) = none := by
    rw [bare]
    exact List.find?_eq_none.mpr fun _ _ => Bool.false_ne_true
  unfold Store.create at related
  unfold createTables at related ⊢
  rw [untaken] at related ⊢
  refine ⟨_, rfl, related, fun name => ?_⟩
  rw [find?_foldl_insert, bare, KeyMap.find?_empty, Option.or_none]

theorem offered_unique {first second : List String} (one : ∀ requests, (store.after requests).Offers name first)
    (other : ∀ requests, (store.after requests).Offers name second)
    (free : ¬ (store.read name key []).isOk) : first.eraseDups = second.eraseDups := by
  have within {columns others : List String} (offers : (store.after []).Offers name columns)
      (alike : ∀ requests, (store.after requests).Offers name others) :
      columns.eraseDups.Sublist others.eraseDups := by
    let values : Record := columns.eraseDups.map fun column => ⟨column, ""⟩
    have taken : (store.insert name key values).isOk := by
      refine (offers.insert key values).mpr ⟨free, fun pair member => ?_⟩
      obtain ⟨column, inside, rfl⟩ := List.mem_map.mp member
      exact List.mem_eraseDups.mp inside
    obtain ⟨later, inserted⟩ := isOk_iff_exists.mp taken
    have reached : store.after [.insert name key values] = later := by
      simp only [after, List.foldl_cons, List.foldl_nil, answer, inserted, settle]
    -- the record that was written whole is read as the others have it
    have read := (offers.complete key (fun _ => "") later (.inl inserted)).1
    have shown := (reached ▸ alike [.insert name key values]).read key [] _ read
    have same : (fun pair : Pair => pair.field) ∘ (fun column => ⟨column, ""⟩) = id := rfl
    rw [List.map_map, same, List.map_id] at shown
    exact shown
  exact (within (one []) other).antisymm (within (other []) one)

end Store

end SharedRecords
