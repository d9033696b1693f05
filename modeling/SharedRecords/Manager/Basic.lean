import SharedRecords.Channel.Control
import SharedRecords.Session.Basic

/-!
The manager installs the schema, starts sessions and collects those that have ended. A schema is
installed at most once and before the first session; a session that fails to start leaves nothing
behind, and a session that ended is collected once.
-/

namespace SharedRecords

structure Manager where
  resources : Session.Resources
  options : Session.Options
  schema : Option Schema
  /-- Numbers handed out; a failed start uses up its own. -/
  launched : Nat
  /-- Sessions not collected yet, in the order in which they started. -/
  sessions : List Session

namespace Manager

def new (backend : Store.Backend) (pool : Region.Pool) (options : Session.Options) : Manager :=
  ⟨⟨backend, pool, .empty⟩, options, none, 0, []⟩

def pool (manager : Manager) : Region.Pool := manager.resources.pool

def memory (manager : Manager) : Region.Memory := manager.resources.memory

def metrics (manager : Manager) : Metrics := manager.resources.metrics

def setPool (manager : Manager) (pool : Region.Pool) : Manager :=
  { manager with resources := { manager.resources with pool } }

def setMemory (manager : Manager) (memory : Region.Memory) : Manager :=
  { manager with resources := manager.resources.setMemory memory }

/-! ## Schema -/

def installSchema (manager : Manager) (schema : Schema) : Except Session.Error Unit × Manager :=
  match manager.schema with
  | some _ => (.error .schemaInstalled, manager)
  | none =>
    match manager.resources.backend.createTables schema.tables with
    | (.error error, backend) =>
      (.error (.store error), { manager with resources := { manager.resources with backend } })
    | (.ok (), backend) =>
      (.ok (), { manager with schema := some schema, resources := { manager.resources with backend } })

def verdict : Except Session.Error Unit → Wire.Status
  | .ok () => .ok
  | .error .schemaInstalled => .conflict
  | .error _ => .failed

/-- Installs the schema that a mapped control region holds, and answers in its flag. -/
def installPosted (manager : Manager) (control : Channel.Control) : Except Session.Error Unit × Manager :=
  let flag := control.flag manager.memory
  if flag = Wire.schemaFlag then
    match control.read? manager.memory Wire.Reader.schema with
    | none => (.error (.violation (.unexpectedFlag flag)), manager)
    | some (.error error) =>
      (.error (.wire error), manager.setMemory (control.acknowledge manager.memory .failed))
    | some (.ok schema) =>
      let (result, installed) := manager.installSchema schema
      (result, installed.setMemory (control.acknowledge installed.memory (verdict result)))
  else (.error (.violation (.unexpectedFlag flag)), manager)

def installFromRegion (manager : Manager) (handle : Region.Handle) :
    Except Session.Error Unit × Manager :=
  match manager.pool.map handle with
  | (.error error, pool) => (.error (.region error), manager.setPool pool)
  | (.ok mapping, pool) => (manager.setPool pool).installPosted ⟨mapping⟩

/-! ## Starting sessions -/

def countSpawnFailure (manager : Manager) : Manager :=
  { manager with
    resources := { manager.resources with metrics := manager.resources.metrics.spawnFailed } }

def release (manager : Manager) (handle : Region.Handle) : Manager :=
  { manager with resources := manager.resources.release handle }

/-- Gives up on a session that did not start. -/
def discard (manager : Manager) (holding : Session.Holding) : Manager :=
  let counted := manager.countSpawnFailure
  if holding.owned then (counted.release holding.request).release holding.response else counted

def enroll (manager : Manager) (session : Session) : Manager :=
  { manager with
    resources := { manager.resources with metrics := manager.resources.metrics.sessionSpawned }
    sessions := manager.sessions ++ [session.enter .serving] }

/-- Starts a session over its regions, on a thread that can be had. -/
def launch (manager : Manager) (holding : Session.Holding) :
    Except Session.Error Channel.Address × Manager :=
  let id : SessionId := ⟨UInt64.ofNat (manager.launched + 1)⟩
  let counted := { manager with launched := manager.launched + 1 }
  match Session.start id holding manager.options manager.resources with
  | (some error, _, resources) => (.error error, { counted with resources }.discard holding)
  | (none, session, resources) => (.ok session.address, { counted with resources }.enroll session)

/-- What comes of a start for which the platform has no thread. -/
def launchThreadless (manager : Manager) (holding : Session.Holding) (detail : String) :
    Except Session.Error Channel.Address × Manager :=
  (.error (.io detail), { manager with launched := manager.launched + 1 }.discard holding)

/-- Allocates the two regions of a session, or neither. -/
def allocatePair (manager : Manager) : Except Region.Error Session.Holding × Manager :=
  let capacity := manager.options.capacity
  match manager.pool.allocate capacity with
  | (.error error, pool) => (.error error, (manager.setPool pool).countSpawnFailure)
  | (.ok request, pool) =>
    match pool.allocate capacity with
    | (.error error, pool) =>
      (.error error, (manager.setPool pool).countSpawnFailure.release request)
    | (.ok response, pool) => (.ok ⟨request, response, true⟩, manager.setPool pool)

def spawn (manager : Manager) : Except Session.Error Channel.Address × Manager :=
  match manager.schema with
  | none => (.error .schemaMissing, manager)
  | some _ =>
    match manager.allocatePair with
    | (.error error, later) => (.error (.region error), later)
    | (.ok holding, later) => later.launch holding

def spawnWith (manager : Manager) (request response : Region.Handle) :
    Except Session.Error Channel.Address × Manager :=
  match manager.schema with
  | none => (.error .schemaMissing, manager)
  | some _ => manager.launch ⟨request, response, false⟩

/-! ## Supervision -/

def session? (manager : Manager) (id : SessionId) : Option Session :=
  manager.sessions.find? (·.id = id)

def state? (manager : Manager) (id : SessionId) : Option Session.State :=
  (manager.session? id).map (·.state)

def activeCount (manager : Manager) : Nat :=
  manager.sessions.countP fun session => !session.state.isTerminal

def sessionIds (manager : Manager) : List SessionId := manager.sessions.map (·.id)

/-- Collects one session. No answer means that it still serves, so that its end is not known. -/
def join (manager : Manager) (id : SessionId) :
    Option (Except Session.Error Session.Summary × Manager) :=
  match manager.session? id with
  | none => some (.error (.unknownSession id), manager)
  | some session =>
    session.result?.map fun result =>
      (result, { manager with sessions := manager.sessions.filter (·.id ≠ id) })

def reap (manager : Manager) : List (SessionId × Except Session.Error Session.Summary) × Manager :=
  (manager.sessions.filterMap fun session => session.result?.map fun result => (session.id, result),
    { manager with sessions := manager.sessions.filter fun session => !session.hasEnded })

/-! ## Serving -/

def serveEach (resources : Session.Resources) : List Session → List Session × Session.Resources
  | [] => ([], resources)
  | session :: rest =>
    let (served, later) := session.serve .zero resources
    let (others, last) := serveEach later rest
    (served :: others, last)

def serveRound (manager : Manager) : Manager :=
  let (sessions, resources) := serveEach manager.resources manager.sessions
  { manager with sessions, resources }

def isPending (manager : Manager) : Bool :=
  manager.sessions.any fun session => (session.pending? manager.resources).isSome

def settleWithin : Nat → Manager → Manager
  | 0, manager => manager
  | rounds + 1, manager =>
    if manager.isPending then settleWithin rounds manager.serveRound else manager

/-- Serves until no request is pending. No response is a request, so a session that takes one for
a request ends, and there are at most as many more rounds as sessions. -/
def settle (manager : Manager) : Manager := settleWithin (manager.sessions.length + 2) manager

def description (manager : Manager) : String :=
  "ConnectionManager \x7b backend: " ++ Text.quoted Store.name ++ ", provider: " ++
    Text.quoted manager.pool.name ++ ", config: " ++ manager.options.description ++ ", sessions: " ++
      toString manager.sessions.length ++ ", .. \x7d"

end Manager

end SharedRecords
