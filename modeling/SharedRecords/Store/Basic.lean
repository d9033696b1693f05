import SharedRecords.Store.StoredTable
import SharedRecords.Wire.Reply
import SharedRecords.Wire.Request

/-!
The record store. It holds tables by name, hands out one context for each session and answers
requests; a request that is refused leaves every table as it was.
-/

namespace SharedRecords

/-- What the store counts for one session. -/
structure Store.Context where
  session : Nat
  reads : Nat
  scans : Nat
  writes : Nat
  deriving DecidableEq, Repr, Inhabited

structure Store where
  tables : KeyMap Store.StoredTable
  opened : Nat
  closed : Nat
  deriving Inhabited

namespace Store

def name : String := "memory"

def empty : Store := ⟨.empty, 0, 0⟩

abbrev Outcome := Except Error Wire.Reply

/-- Creates every table, or none if one of the names is taken. A name that is listed twice gets
the columns listed last. -/
def createTables (store : Store) (tables : List Table) : Except Error Store :=
  match tables.find? (fun table => store.tables.contains table.name) with
  | some taken => .error (.tableExists taken.name)
  | none =>
    .ok { store with
      tables := tables.foldl (fun held table => held.insert table.name (.create table)) store.tables }

def openContext (store : Store) : Context × Store :=
  (⟨store.opened, 0, 0, 0⟩, { store with opened := store.opened + 1 })

def closeContext (store : Store) : Store := { store with closed := store.closed + 1 }

def recordCount? (store : Store) (table : String) : Option Nat :=
  (store.tables.find? table).map (·.rows.size)

def query {α : Type} (store : Store) (table : String) (ask : StoredTable → Except Error α) :
    Except Error α :=
  match store.tables.find? table with
  | some held => ask held
  | none => .error (.unknownTable table)

def change (store : Store) (table : String) (edit : StoredTable → Except Error StoredTable) :
    Except Error Store :=
  match store.query table edit with
  | .ok edited => .ok { store with tables := store.tables.insert table edited }
  | .error error => .error error

def read (store : Store) (table key : String) (fields : List String) : Except Error Record :=
  store.query table (·.read key fields)

def scan (store : Store) (table start : String) (count : Nat) (fields : List String) :
    Except Error Rows :=
  store.query table (·.scan start count fields)

def insert (store : Store) (table key : String) (values : Record) : Except Error Store :=
  store.change table (·.insert table key values)

def update (store : Store) (table key : String) (values : Record) : Except Error Store :=
  store.change table (·.update table key values)

def delete (store : Store) (table key : String) : Except Error Store :=
  store.change table (·.delete key)

def Context.count (context : Context) : Wire.Opcode → Context
  | .read => { context with reads := context.reads + 1 }
  | .scan => { context with scans := context.scans + 1 }
  | .insert | .update | .delete => { context with writes := context.writes + 1 }
  | .close => context

/-- An applied change answers nothing and a refused one keeps the store. -/
def settle (store : Store) : Except Error Store → Outcome × Store
  | .ok changed => (.ok .empty, changed)
  | .error error => (.error error, store)

def answer (store : Store) : Wire.Request → Outcome × Store
  | .read table key fields => ((store.read table key fields).map .record, store)
  | .scan table start count fields => ((store.scan table start count.toNat fields).map .rows, store)
  | .insert table key values => store.settle (store.insert table key values)
  | .update table key values => store.settle (store.update table key values)
  | .delete table key => store.settle (store.delete table key)
  | .close => (.ok .empty, store)

def handle (store : Store) (context : Context) (request : Wire.Request) : Outcome × Context × Store :=
  let (outcome, later) := store.answer request
  (outcome, context.count request.opcode, later)

theorem settle_of_error {store later : Store} {result : Except Error Store} {error : Error}
    (refused : store.settle result = (.error error, later)) : later = store := by
  cases result with
  | ok changed => simp [settle] at refused
  | error reason => exact (congrArg Prod.snd refused).symm

theorem answer_of_error {store later : Store} {request : Wire.Request} {error : Error}
    (refused : store.answer request = (.error error, later)) : later = store := by
  cases request with
  | read table key fields => exact (congrArg Prod.snd refused).symm
  | scan table start count fields => exact (congrArg Prod.snd refused).symm
  | insert table key values => exact settle_of_error refused
  | update table key values => exact settle_of_error refused
  | delete table key => exact settle_of_error refused
  | close => simp [answer] at refused

end Store

end SharedRecords
