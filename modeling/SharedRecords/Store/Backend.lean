import SharedRecords.Store.Outcome

/-!
A store behind a plan of faults. Each operation may be planned to report an error without
reaching the store, or to crash the session that asked for it.
-/

namespace SharedRecords.Store

/-- The operations a fault can be planned for. -/
inductive Entry where
  | createTables
  | openContext
  | closeContext
  | serve (opcode : Wire.Opcode)
  deriving DecidableEq, Repr

inductive Fault where
  | fails (error : Error)
  | crashes
  deriving DecidableEq, Repr

structure Backend where
  store : Store
  faults : Entry → Option Fault := fun _ => none

namespace Backend

/-- What came of an operation: a result and the backend after it, or a crash that left no result
and changed nothing. -/
inductive Effect (α : Type) where
  | finished (result : Except Error α) (backend : Backend)
  | crashed

def ofStore (store : Store) : Backend := { store }

def guarded {α : Type} (backend : Backend) (entry : Entry) (act : Except Error α × Store) : Effect α :=
  match backend.faults entry with
  | some (.fails error) => .finished (.error error) backend
  | some .crashes => .crashed
  | none => .finished act.1 { backend with store := act.2 }

/-- Tables are created outside of any session, so a planned crash shows as a failure. -/
def createTables (backend : Backend) (tables : List Table) : Except Error Unit × Backend :=
  match backend.faults .createTables with
  | some (.fails error) => (.error error, backend)
  | some .crashes => (.error (.failed "crashed"), backend)
  | none =>
    match backend.store.createTables tables with
    | .ok store => (.ok (), { backend with store })
    | .error error => (.error error, backend)

def openContext (backend : Backend) : Effect Context :=
  let (context, store) := backend.store.openContext
  backend.guarded .openContext (.ok context, store)

def closeContext (backend : Backend) : Effect Unit :=
  backend.guarded .closeContext (.ok (), backend.store.closeContext)

def handle (backend : Backend) (context : Context) (request : Wire.Request) :
    Effect Wire.Reply × Context :=
  let (outcome, counted, store) := backend.store.handle context request
  match backend.faults (.serve request.opcode) with
  | some (.fails error) => (.finished (.error error) backend, context)
  | some .crashes => (.crashed, context)
  | none => (.finished outcome { backend with store }, counted)

theorem handle_of_no_fault {backend : Backend} {context : Context} {request : Wire.Request}
    (sound : backend.faults (.serve request.opcode) = none) :
    backend.handle context request =
      (.finished (backend.store.answer request).1 { backend with store := (backend.store.answer request).2 },
        context.count request.opcode) := by
  simp only [handle, Store.handle, sound]

end Backend

end SharedRecords.Store
