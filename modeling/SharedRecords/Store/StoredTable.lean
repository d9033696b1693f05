import SharedRecords.KeyMap
import SharedRecords.Schema
import SharedRecords.Store.Error

/-!
One table of the store: its columns and its rows by key. A row has one slot for each column,
and a slot is empty until its column is written.
-/

namespace SharedRecords.Store

abbrev Row := List (Option String)

structure StoredTable where
  columns : List String
  rows : KeyMap Row
  deriving Inhabited

namespace StoredTable

def create (table : Table) : StoredTable := ⟨table.columns, .empty⟩

/-- The row of a record that has no values yet. -/
def blankRow (table : StoredTable) : Row := List.replicate table.columns.length none

def slot (table : StoredTable) (name column : String) : Except Error Nat :=
  match table.columns.findIdx? (· == column) with
  | some index => .ok index
  | none => .error (.unknownColumn name column)

def slots (table : StoredTable) (name : String) : Record → Except Error (List Nat)
  | [] => .ok []
  | pair :: rest =>
    match table.slot name pair.field with
    | .error error => .error error
    | .ok index =>
      match slots table name rest with
      | .error error => .error error
      | .ok others => .ok (index :: others)

/-- Fills slots in order, so the last value of a repeated field stays. -/
def fill (row : Row) (indices : List Nat) (values : Record) : Row :=
  (indices.zip values).foldl (fun row (index, pair) => row.set index (some pair.value)) row

/-- Every field is resolved before the row is touched. -/
def amend (table : StoredTable) (name : String) (row : Row) (values : Record) : Except Error Row :=
  match table.slots name values with
  | .error error => .error error
  | .ok indices => .ok (fill row indices values)

/-- The written columns of a row in column order. No fields stands for all of them, and fields
that name no column are skipped. -/
def project (table : StoredTable) (fields : List String) (row : Row) : Record :=
  (table.columns.zip row).filterMap fun (column, value) =>
    if fields.isEmpty || fields.contains column then value.map (⟨column, ·⟩) else none

def read (table : StoredTable) (key : String) (fields : List String) : Except Error Record :=
  match table.rows.find? key with
  | some row => .ok (table.project fields row)
  | none => .error .notFound

/-- The records from the first key that is not below the start, in key order; none at all is
an error. -/
def scan (table : StoredTable) (start : String) (count : Nat) (fields : List String) :
    Except Error Rows :=
  match (table.rows.startingAt start).take count with
  | [] => .error .notFound
  | found => .ok (found.map fun (_, row) => table.project fields row)

def insert (table : StoredTable) (name key : String) (values : Record) : Except Error StoredTable :=
  if table.rows.contains key then .error (.conflict ("duplicate key " ++ key))
  else
    match table.amend name table.blankRow values with
    | .error error => .error error
    | .ok row => .ok { table with rows := table.rows.insert key row }

def update (table : StoredTable) (name key : String) (values : Record) : Except Error StoredTable :=
  match table.rows.find? key with
  | none => .error .notFound
  | some held =>
    match table.amend name held values with
    | .error error => .error error
    | .ok row => .ok { table with rows := table.rows.insert key row }

def delete (table : StoredTable) (key : String) : Except Error StoredTable :=
  if table.rows.contains key then .ok { table with rows := table.rows.erase key }
  else .error .notFound

end StoredTable

end SharedRecords.Store
