/-!
The ways in which the store refuses an operation, each with its message.
-/

namespace SharedRecords.Store

inductive Error where
  | notFound
  | conflict (reason : String)
  | unknownTable (table : String)
  | unknownColumn (table column : String)
  | tableExists (table : String)
  | failed (reason : String)
  deriving DecidableEq, Repr, Inhabited

namespace Error

/-- The name under which the error is reported. -/
def kind : Error → String
  | notFound => "NotFound"
  | conflict _ => "Conflict"
  | unknownTable _ => "UnknownTable"
  | unknownColumn .. => "UnknownColumn"
  | tableExists _ => "TableExists"
  | failed _ => "Failed"

def message : Error → String
  | notFound => "record not found"
  | conflict reason => "conflict: " ++ reason
  | unknownTable table => "unknown table: " ++ table
  | unknownColumn table column => s!"unknown column {column} in table {table}"
  | tableExists table => "table already exists: " ++ table
  | failed reason => "backend failure: " ++ reason

def isNotFound : Error → Bool
  | notFound => true
  | _ => false

def isConflict : Error → Bool
  | conflict _ => true
  | _ => false

end Error

end SharedRecords.Store
