import SharedRecords.Store.Basic

/-!
All that a request makes of a store. One that is met and changes a record puts an edited table in the place of
the one it names, and the edit writes or removes the record under one key. Any other request leaves the store
as it is, so what edits keep is kept by every request.
-/

namespace SharedRecords

namespace Wire.Request

inductive Changes : Request → String → String → Prop where
  | insert (table key : String) (values : Record) : Changes (.insert table key values) table key
  | update (table key : String) (values : Record) : Changes (.update table key values) table key
  | delete (table key : String) : Changes (.delete table key) table key

end Wire.Request

namespace Store

namespace StoredTable

variable {table later : StoredTable} {name key other : String} {values : Record}

/-- The row that a write under a key amends: the one held there, or a blank one where none is. -/
inductive Amends (table : StoredTable) (key : String) : Row → Prop where
  | blank (free : table.rows.find? key = none) : Amends table key table.blankRow
  | held {row : Row} (found : table.rows.find? key = some row) : Amends table key row

inductive Edited (table : StoredTable) (key : String) : StoredTable → Prop where
  | written {name : String} {values : Record} {row amended : Row} (amends : table.Amends key row)
      (write : table.amend name row values = .ok amended) :
      Edited table key { table with rows := table.rows.insert key amended }
  | removed (held : table.rows.contains key = true) :
      Edited table key { table with rows := table.rows.erase key }

theorem insert_edited (inserted : table.insert name key values = .ok later) : table.Edited key later := by
  unfold StoredTable.insert at inserted
  split at inserted
  next => cases inserted
  next free =>
    split at inserted
    next => cases inserted
    next amended write =>
      cases inserted
      rw [KeyMap.contains, Bool.not_eq_true, Option.isSome_eq_false_iff, Option.isNone_iff_eq_none] at free
      exact .written (.blank free) write

theorem update_edited (updated : table.update name key values = .ok later) : table.Edited key later := by
  unfold StoredTable.update at updated
  split at updated
  next => cases updated
  next row found =>
    split at updated
    next => cases updated
    next amended write =>
      cases updated
      exact .written (.held found) write

theorem delete_edited (deleted : table.delete key = .ok later) : table.Edited key later := by
  unfold StoredTable.delete at deleted
  split at deleted
  next held =>
    cases deleted
    exact .removed held
  next => cases deleted

theorem Edited.columns (edited : table.Edited key later) : later.columns = table.columns := by
  cases edited with
  | written => rfl
  | removed => rfl

theorem Edited.find?_of_ne (edited : table.Edited key later) (apart : other ≠ key) :
    later.rows.find? other = table.rows.find? other := by
  cases edited with
  | written => rw [KeyMap.find?_insert, if_neg apart]
  | removed => rw [KeyMap.find?_erase, if_neg apart]

end StoredTable

variable {request : Wire.Request} {name key : String}

inductive Follows (store : Store) (request : Wire.Request) : Store → Prop where
  | kept : Follows store request store
  | edited {name key : String} {table later : StoredTable} (changes : request.Changes name key)
      (found : store.tables.find? name = some table) (edited : table.Edited key later) :
      Follows store request { store with tables := store.tables.insert name later }

theorem settle_change_follows (store : Store) {edit : StoredTable → Except Error StoredTable}
    (changes : request.Changes name key)
    (edits : ∀ {table later}, edit table = .ok later → table.Edited key later) :
    store.Follows request (store.settle (store.change name edit)).2 := by
  unfold change query
  cases found : store.tables.find? name with
  | none => exact .kept
  | some table =>
    dsimp only
    cases made : edit table with
    | error => exact .kept
    | ok later => exact .edited changes found (edits made)

theorem answer_follows (store : Store) (request : Wire.Request) :
    store.Follows request (store.answer request).2 := by
  cases request with
  | read => exact .kept
  | scan => exact .kept
  | insert => exact store.settle_change_follows (.insert ..) StoredTable.insert_edited
  | update => exact store.settle_change_follows (.update ..) StoredTable.update_edited
  | delete => exact store.settle_change_follows (.delete ..) StoredTable.delete_edited
  | close => exact .kept

theorem Follows.contexts {store later : Store} (follows : store.Follows request later) :
    later.opened = store.opened ∧ later.closed = store.closed := by
  cases follows with
  | kept | edited => exact ⟨rfl, rfl⟩

end Store

end SharedRecords
