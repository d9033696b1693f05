import SharedRecords.Text.Quoted

/-!
Tables, schemas and records: the values that clients, sessions and stores exchange.
A name may be listed twice; every lookup answers with its first occurrence.
-/

namespace SharedRecords

/-- One column of one row. -/
structure Pair where
  field : String
  value : String
  deriving DecidableEq, Repr, Inhabited

/-- The columns of one row, in the order they were written or declared. -/
abbrev Record := List Pair

abbrev Rows := List Record

structure Table where
  name : String
  columns : List String
  deriving DecidableEq, Repr, Inhabited

structure Schema where
  tables : List Table
  location : String
  deriving DecidableEq, Repr, Inhabited

namespace Pair

def text (pair : Pair) : String := pair.field ++ "=" ++ pair.value

def le (first second : Pair) : Bool :=
  first.field < second.field || (first.field == second.field && first.value ≤ second.value)

/-- Equal pairs keep their order, so sorting is stable. -/
def sort (pairs : List Pair) : List Pair := pairs.mergeSort le

end Pair

namespace Table

def hasColumn (table : Table) (column : String) : Bool := table.columns.contains column

/-- The place of the first column of that name. -/
def columnIndex? (table : Table) (column : String) : Option Nat :=
  table.columns.findIdx? (· == column)

def json (table : Table) : String :=
  "\x7b\"name\":" ++ Text.jsonQuoted table.name ++ ",\"columns\":[" ++
    ",".intercalate (table.columns.map Text.jsonQuoted) ++ "]\x7d"

end Table

namespace Schema

def table? (schema : Schema) (name : String) : Option Table :=
  schema.tables.find? (·.name == name)

end Schema

/-- The number a session is known by. -/
structure SessionId where
  number : UInt64
  deriving DecidableEq, Repr, Inhabited

namespace SessionId

def text (id : SessionId) : String := s!"session#{id.number.toNat}"

end SessionId

end SharedRecords
