import Mathlib.Data.Finmap
import Mathlib.Data.Finset.Sort
import Mathlib.Data.String.Basic
import SharedRecords.Store.Basic

/-!
The reference store. A table has its columns and a finite map from keys to records, and a record
is a finite map from columns to values: there are no slots, no rows and no order of entries.
-/

namespace SharedRecords

abbrev Cells := Finmap fun _ : String => String

namespace Cells

def write (cells : Cells) (values : Record) : Cells :=
  values.foldl (fun cells pair => cells.insert pair.field pair.value) cells

def visible (cells : Cells) (columns fields : List String) : Record :=
  columns.eraseDups.filterMap fun column =>
    if fields = [] ∨ column ∈ fields then (cells.lookup column).map (⟨column, ·⟩) else none

end Cells

structure Reference.Table where
  columns : List String
  rows : Finmap fun _ : String => Cells

namespace Reference.Table

def stranger? (table : Table) (values : Record) : Option String :=
  (values.map (·.field)).find? (· ∉ table.columns)

def read (table : Table) (key : String) (fields : List String) : Except Store.Error Record :=
  match table.rows.lookup key with
  | some cells => .ok (cells.visible table.columns fields)
  | none => .error .notFound

/-- The keys a scan meets: the least ones that are not below the start. -/
def range (table : Table) (start : String) (count : Nat) : List String :=
  (table.rows.keys.filter (start ≤ ·)).sort.take count

def scan (table : Table) (start : String) (count : Nat) (fields : List String) : Except Store.Error Rows :=
  if table.range start count = [] then .error .notFound
  else
    .ok <| (table.range start count).filterMap fun key =>
      (table.rows.lookup key).map (·.visible table.columns fields)

def put (table : Table) (name key : String) (cells : Cells) (values : Record) : Except Store.Error Table :=
  match table.stranger? values with
  | some field => .error (.unknownColumn name field)
  | none => .ok { table with rows := table.rows.insert key (cells.write values) }

def insert (table : Table) (name key : String) (values : Record) : Except Store.Error Table :=
  if key ∈ table.rows then .error (.conflict ("duplicate key " ++ key)) else table.put name key ∅ values

def update (table : Table) (name key : String) (values : Record) : Except Store.Error Table :=
  match table.rows.lookup key with
  | none => .error .notFound
  | some cells => table.put name key cells values

def delete (table : Table) (key : String) : Except Store.Error Table :=
  if key ∈ table.rows then .ok { table with rows := table.rows.erase key } else .error .notFound

end Reference.Table

structure Reference where
  tables : Finmap fun _ : String => Reference.Table
  opened : Nat

namespace Reference

def empty : Reference := ⟨∅, 0⟩

def create (reference : Reference) (tables : List SharedRecords.Table) :
    Except Store.Error Unit × Reference :=
  match (tables.map (·.name)).find? (· ∈ reference.tables) with
  | some taken => (.error (.tableExists taken), reference)
  | none =>
    (.ok (), { reference with
      tables := tables.foldl (fun held table => held.insert table.name ⟨table.columns, ∅⟩) reference.tables })

def ask {α : Type} (reference : Reference) (name : String) (question : Table → Except Store.Error α) :
    Except Store.Error α :=
  match reference.tables.lookup name with
  | some table => question table
  | none => .error (.unknownTable name)

def change (reference : Reference) (name : String) (edit : Table → Except Store.Error Table) :
    Store.Outcome × Reference :=
  match reference.ask name edit with
  | .ok edited => (.ok .empty, { reference with tables := reference.tables.insert name edited })
  | .error error => (.error error, reference)

def counted (context : Store.Context) (result : Store.Outcome × Reference) :
    Store.Outcome × Store.Context × Reference :=
  (result.1, { context with writes := context.writes + 1 }, result.2)

/-- What a request comes to, the context that counted it, and the tables after it. -/
def handle (reference : Reference) (context : Store.Context) :
    Wire.Request → Store.Outcome × Store.Context × Reference
  | .read table key fields =>
    ((reference.ask table (·.read key fields)).map .record,
      { context with reads := context.reads + 1 }, reference)
  | .scan table start count fields =>
    ((reference.ask table (·.scan start count.toNat fields)).map .rows,
      { context with scans := context.scans + 1 }, reference)
  | .insert table key values => counted context (reference.change table (·.insert table key values))
  | .update table key values => counted context (reference.change table (·.update table key values))
  | .delete table key => counted context (reference.change table (·.delete key))
  | .close => (.ok .empty, context, reference)

end Reference

namespace Store

inductive Call where
  | createTables (tables : List Table)
  | openContext
  | handle (context : Context) (request : Wire.Request)

inductive Answer where
  | created (result : Except Error Unit)
  | opened (context : Context)
  | handled (outcome : Outcome) (context : Context)

def create (store : Store) (tables : List Table) : Except Error Unit × Store :=
  match store.createTables tables with
  | .ok created => (.ok (), created)
  | .error error => (.error error, store)

def respond (store : Store) : Call → Answer × Store
  | .createTables tables => (.created (store.create tables).1, (store.create tables).2)
  | .openContext => (.opened store.openContext.1, store.openContext.2)
  | .handle context request =>
    (.handled (store.handle context request).1 (store.handle context request).2.1,
      (store.handle context request).2.2)

def answers (store : Store) : List Call → List Answer
  | [] => []
  | call :: rest => (store.respond call).1 :: (store.respond call).2.answers rest

end Store

namespace Reference

def respond (reference : Reference) : Store.Call → Store.Answer × Reference
  | .createTables tables => (.created (reference.create tables).1, (reference.create tables).2)
  | .openContext => (.opened ⟨reference.opened, 0, 0, 0⟩, { reference with opened := reference.opened + 1 })
  | .handle context request =>
    (.handled (reference.handle context request).1 (reference.handle context request).2.1,
      (reference.handle context request).2.2)

def answers (reference : Reference) : List Store.Call → List Store.Answer
  | [] => []
  | call :: rest => (reference.respond call).1 :: (reference.respond call).2.answers rest

end Reference

end SharedRecords
