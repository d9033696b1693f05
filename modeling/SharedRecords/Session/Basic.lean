import SharedRecords.Channel.Address
import SharedRecords.Metrics.Basic
import SharedRecords.Region.Pool
import SharedRecords.Session.Error
import SharedRecords.Session.Options
import SharedRecords.Session.Publish
import SharedRecords.Session.State
import SharedRecords.Store.Backend

/-!
Sessions. A session maps its two regions, opens a context of the store and serves one request
after another, until a request to close or a violation ends it; then it gives back what it holds.
What others can see of it is kept in a journal.
-/

namespace SharedRecords

namespace Session

/-- What all sessions of a manager share. -/
structure Resources where
  backend : Store.Backend
  pool : Region.Pool
  metrics : Metrics

namespace Resources

def memory (resources : Resources) : Region.Memory := resources.pool.memory

def setMemory (resources : Resources) (memory : Region.Memory) : Resources :=
  { resources with pool := resources.pool.setMemory memory }

/-- Takes a region back; a pool that does not know it any more is no concern of the session. -/
def release (resources : Resources) (handle : Region.Handle) : Resources :=
  { resources with pool := (resources.pool.release handle).2 }

end Resources

/-- The regions of a session. -/
structure Holding where
  request : Region.Handle
  response : Region.Handle
  /-- Owned regions are released with the session; others belong to the client. -/
  owned : Bool
  deriving DecidableEq, Repr, Inhabited

/-- What a closed session reports. -/
structure Summary where
  id : SessionId
  /-- Requests served, the closing one included. -/
  requests : Nat
  deriving DecidableEq, Repr, Inhabited

/-- How a session ended. -/
inductive Ending where
  | finished (result : Except Error Summary)
  /-- The store crashed under it, and nothing was given back. -/
  | crashed

/-- What others can see a session do. -/
inductive Event where
  | entered (state : State)
  | published (status : Wire.Status)
  | unmapped
  | released (handle : Region.Handle)
  | contextClosed
  deriving DecidableEq, Repr

/-- What a session holds while it serves. -/
structure Link where
  channel : Channel.ServerEnd
  context : Store.Context
  deriving DecidableEq, Repr, Inhabited

end Session

structure Session where
  id : SessionId
  holding : Session.Holding
  link : Option Session.Link
  requests : Nat
  state : Session.State
  ending : Option Session.Ending
  journal : List Session.Event

namespace Session

def create (id : SessionId) (holding : Holding) : Session :=
  ⟨id, holding, none, 0, .created, none, [.entered .created]⟩

def address (session : Session) : Channel.Address :=
  ⟨session.id, session.holding.request, session.holding.response⟩

def note (session : Session) (event : Event) : Session :=
  { session with journal := event :: session.journal }

def enter (session : Session) (state : State) : Session :=
  { session.note (.entered state) with state }

def crash (session : Session) : Session := { session with link := none, ending := some .crashed }

/-- How the session ended, as whoever collects it is told. -/
def result? (session : Session) : Option (Except Error Summary) :=
  session.ending.map fun
    | .finished result => result
    | .crashed => .error (.crashed session.id)

def hasEnded (session : Session) : Bool := session.ending.isSome

/-- Opens the context of a session whose regions are mapped. -/
def open? (session : Session) (channel : Channel.ServerEnd) (resources : Resources) :
    Option Error × Session × Resources :=
  match resources.backend.openContext with
  | .crashed => (some (.crashed session.id), session.crash, resources)
  | .finished (.error error) backend =>
    (some (.store error), session.enter .terminated, { resources with backend })
  | .finished (.ok context) backend =>
    (none, { session.enter .ready with link := some ⟨channel, context⟩ }, { resources with backend })

/-- Brings a session from created to ready, or tells why it has terminated. -/
def start (id : SessionId) (holding : Holding) (options : Options) (resources : Resources) :
    Option Error × Session × Resources :=
  let session := create id holding
  match resources.pool.map holding.request with
  | (.error error, pool) =>
    (some (.region error), session.enter .terminated, { resources with pool })
  | (.ok request, pool) =>
    match pool.map holding.response with
    | (.error error, pool) =>
      (some (.region error), session.enter .terminated, { resources with pool })
    | (.ok response, pool) =>
      let (channel, memory) := Channel.ServerEnd.attach request response options.poller pool.memory
      (session.enter .attached).open? channel { resources with pool := pool.setMemory memory }

def releaseRegions (session : Session) (resources : Resources) : Session × Resources :=
  let holding := session.holding
  if holding.owned then
    ((session.note (.released holding.request)).note (.released holding.response),
      (resources.release holding.request).release holding.response)
  else (session, resources)

def closeContext (session : Session) (result : Except Error Summary) (resources : Resources) :
    Session × Resources :=
  match resources.backend.closeContext with
  | .crashed => (session.crash, resources)
  | .finished _ backend =>
    ({ (session.note .contextClosed).enter .terminated with ending := some (.finished result) },
      { resources with backend, metrics := resources.metrics.sessionTerminated })

/-- Ends a session behind its last response: unmaps the regions, releases them if they are owned,
and closes the context. -/
def teardown (session : Session) (result : Except Error Summary) (resources : Resources) :
    Session × Resources :=
  let unmapped := { (session.enter .closing).note .unmapped with link := none }
  let (released, resources) := unmapped.releaseRegions resources
  released.closeContext result resources

/-- Ends a session on a violation, which the client is told by the status alone. -/
def abort (session : Session) (channel : Channel.ServerEnd) (cause : Violation)
    (resources : Resources) : Session × Resources :=
  let memory := channel.abort resources.memory
  (session.note (.published .aborted)).teardown (.error (.violation cause))
    { resources.setMemory memory with metrics := resources.metrics.protocolError }

/-- Publishes what a request came to and counts it; the session goes on with what follows, or ends
if no answer had room. -/
def conclude (session : Session) (link : Link) (opcode : Wire.Opcode) (outcome : Store.Outcome)
    (elapsed : Duration) (resources : Resources) (proceed : Session → Resources → Session × Resources) :
    Session × Resources :=
  match publish link.channel resources.memory outcome.status outcome.chunks with
  | (.error cause, memory) => session.abort link.channel cause (resources.setMemory memory)
  | (.ok status, memory) =>
    proceed (session.note (.published status))
      { resources.setMemory memory with metrics := resources.metrics.record opcode status elapsed }

def handle (session : Session) (link : Link) (request : Wire.Request) (elapsed : Duration)
    (resources : Resources) : Session × Resources :=
  match resources.backend.handle link.context request with
  | (.crashed, _) => (session.crash, resources)
  | (.finished outcome backend, context) =>
    session.conclude link request.opcode outcome elapsed { resources with backend }
      fun concluded resources => ({ concluded with link := some { link with context } }, resources)

/-- Takes a request off its flag. -/
def take (session : Session) (link : Link) (flag : UInt8) (elapsed : Duration) (resources : Resources) :
    Session × Resources :=
  let counted := { session with requests := session.requests + 1 }
  match Wire.Opcode.ofByte? flag with
  | none => counted.abort link.channel (.unknownOpcode flag) resources
  | some opcode =>
    match link.channel.decode resources.memory (Wire.Request.reader opcode) with
    | .error error => counted.abort link.channel (.malformed opcode error) resources
    | .ok .close =>
      counted.conclude link .close (.ok .empty) elapsed resources
        fun concluded resources => concluded.teardown (.ok ⟨counted.id, counted.requests⟩) resources
    | .ok request => counted.handle link request elapsed resources

def pending? (session : Session) (resources : Resources) : Option (Link × UInt8) :=
  match session.link with
  | none => none
  | some link => (link.channel.pending? resources.memory).map fun flag => (link, flag)

/-- One turn: the pending request, if there is one. -/
def serve (session : Session) (elapsed : Duration) (resources : Resources) : Session × Resources :=
  match session.pending? resources with
  | none => (session, resources)
  | some (link, flag) => session.take link flag elapsed resources

end Session

end SharedRecords
