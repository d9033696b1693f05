import Mathlib.Logic.Relation
import SharedRecords.Channel.ClientEnd
import SharedRecords.Channel.ServerEnd
import SharedRecords.Session.Publish
import SharedRecords.Wire.Request

/-!
The two ends of a channel at work. Every access to shared memory is a step of its own, and the steps
of the client and of the session come in any order. What was raised, served, published and received
is recorded beside the state, and no step looks at these records.
-/

namespace SharedRecords.Channel

open Region (Mapping Memory)

/-- What an end sees under a raised flag. -/
structure Signal where
  flag : UInt8
  payload : Wire.Payload
  deriving DecidableEq, Repr

/-- A raised request: what was asked, and the payload that it was raised over. -/
structure Call where
  opcode : Wire.Opcode
  message : Wire.Message
  payload : Wire.Payload
  deriving DecidableEq, Repr

namespace Call

def signal (call : Call) : Signal := ⟨call.opcode.byte, call.payload⟩

end Call

/-- What a session comes to say to one request. -/
structure Answer where
  status : Wire.Status
  message : Wire.Message
  /-- The session serves nothing after it. -/
  last : Bool
  deriving DecidableEq, Repr

namespace Answer

/-- A violation is answered by the status alone. -/
def abortion : Answer := ⟨.aborted, [], true⟩

/-- What is said instead of an answer that does not fit. -/
def excuse (answer : Answer) (error : Wire.Error) (capacity : Nat) : Answer :=
  ⟨.failed, [.text (Session.overflowNote answer.status error capacity)], answer.last⟩

end Answer

/-- A response with the number of the request it is for. -/
structure Delivery where
  number : Nat
  signal : Signal
  deriving DecidableEq, Repr

inductive ClientPhase where
  | idle
  /-- The request is written but not raised. -/
  | written (opcode : Wire.Opcode) (message : Wire.Message)
  /-- The request of this number is raised. -/
  | waiting (number : Nat) (opcode : Wire.Opcode)
  /-- The response flag was seen raised. -/
  | taking (number : Nat) (opcode : Wire.Opcode) (flag : UInt8)
  /-- The response is read and its flag still raised. -/
  | lowering
  deriving DecidableEq, Repr

/-- Where a session stands in its loop. -/
inductive ServerPhase where
  | polling
  /-- The request flag was seen raised. -/
  | taken (flag : UInt8)
  /-- The answer is known but not written. -/
  | answering (answer : Answer) (excused : Bool)
  /-- The answer is written and the request flag still raised. -/
  | lowering (answer : Answer)
  /-- The request flag is lowered and the response flag not yet raised. -/
  | raising (answer : Answer)
  | ended
  deriving DecidableEq, Repr

namespace ClientPhase

def afterWrite (opcode : Wire.Opcode) (message : Wire.Message) : Option Wire.Error → ClientPhase
  | none => written opcode message
  | some _ => idle

end ClientPhase

namespace ServerPhase

def afterWrite (answer : Answer) (excused : Bool) (capacity : Nat) : Option Wire.Error → ServerPhase
  | none => lowering answer
  | some error => if excused then lowering .abortion else answering (answer.excuse error capacity) true

def afterPublish (answer : Answer) : ServerPhase := if answer.last then ended else polling

end ServerPhase

/-- What a session can come to on a request it has taken. Any outcome is possible, since it lies with
the store. -/
inductive Answers (server : ServerEnd) (memory : Memory) (flag : UInt8) : ServerPhase → Prop where
  | unknown (strange : Wire.Opcode.ofByte? flag = none) : Answers server memory flag (.lowering .abortion)
  | malformed {opcode : Wire.Opcode} {error : Wire.Error} (known : Wire.Opcode.ofByte? flag = some opcode)
      (refused : server.decode memory (Wire.Request.reader opcode) = .error error) :
      Answers server memory flag (.lowering .abortion)
  | closed {opcode : Wire.Opcode} (known : Wire.Opcode.ofByte? flag = some opcode)
      (decoded : server.decode memory (Wire.Request.reader opcode) = .ok .close) :
      Answers server memory flag (.answering ⟨.ok, [], true⟩ false)
  | handled {opcode : Wire.Opcode} {request : Wire.Request} (known : Wire.Opcode.ofByte? flag = some opcode)
      (decoded : server.decode memory (Wire.Request.reader opcode) = .ok request)
      (served : request ≠ .close) (outcome : Store.Outcome) :
      Answers server memory flag (.answering ⟨outcome.status, outcome.chunks, false⟩ false)
  | crashed {opcode : Wire.Opcode} {request : Wire.Request} (known : Wire.Opcode.ofByte? flag = some opcode)
      (decoded : server.decode memory (Wire.Request.reader opcode) = .ok request)
      (served : request ≠ .close) : Answers server memory flag .ended

/-- Two regions of one memory, neither of them the other. -/
structure RegionPair (memory : Memory) where
  request : Mapping
  response : Mapping
  apart : request.index ≠ response.index
  request_inside : request.index < memory.next
  response_inside : response.index < memory.next

/-- Both ends of a channel, the memory between them, and the records of what went through it. -/
structure Rendezvous where
  memory : Memory
  client : ClientEnd
  clientPhase : ClientPhase
  server : ServerEnd
  serverPhase : ServerPhase
  raised : List Call
  served : List Signal
  published : List Delivery
  received : List Delivery
  deriving DecidableEq, Repr

namespace Rendezvous

/-- A session that has just attached itself and a client that has just connected. -/
def start {memory : Memory} (pair : RegionPair memory) (clientPoller serverPoller : Poller) : Rendezvous where
  memory := (ServerEnd.attach pair.request pair.response serverPoller memory).2
  client := .connect pair.request pair.response clientPoller
  clientPhase := .idle
  server := (ServerEnd.attach pair.request pair.response serverPoller memory).1
  serverPhase := .polling
  raised := []
  served := []
  published := []
  received := []

def write (state : Rendezvous) (opcode : Wire.Opcode) (message : Wire.Message) : Rendezvous :=
  { state with
    memory := (state.client.request.write state.memory message).2
    clientPhase := .afterWrite opcode message (state.client.request.write state.memory message).1 }

def raise (state : Rendezvous) (opcode : Wire.Opcode) (message : Wire.Message) : Rendezvous :=
  { state with
    memory := state.memory.setFlag state.client.request.index opcode.byte
    clientPhase := .waiting state.raised.length opcode
    raised := state.raised ++ [⟨opcode, message, state.client.request.payload state.memory⟩] }

def look (state : Rendezvous) (number : Nat) (opcode : Wire.Opcode) : Rendezvous :=
  { state with clientPhase := .taking number opcode (state.memory.flag state.client.response.index) }

def timeOut (state : Rendezvous) : Rendezvous :=
  { state with client := state.client.poison, clientPhase := .idle }

def read {α : Type} (state : Rendezvous) (number : Nat) (opcode : Wire.Opcode) (flag : UInt8)
    (reader : Wire.Status → Wire.Reader α) : Rendezvous :=
  { state with
    client := (state.client.interpret opcode flag (state.client.response.payload state.memory) reader).2
    clientPhase := .lowering
    received := state.received ++ [⟨number, flag, state.client.response.payload state.memory⟩] }

def release (state : Rendezvous) : Rendezvous :=
  { state with
    memory := state.memory.setFlag state.client.response.index Wire.emptyFlag
    clientPhase := .idle }

/-- The session finds the request flag raised. -/
def notice (state : Rendezvous) (flag : UInt8) : Rendezvous := { state with serverPhase := .taken flag }

/-- The session reads the request payload and comes to an answer. -/
def serve (state : Rendezvous) (flag : UInt8) (phase : ServerPhase) : Rendezvous :=
  { state with
    serverPhase := phase
    served := state.served ++ [⟨flag, state.server.request.payload state.memory⟩] }

def reply (state : Rendezvous) (answer : Answer) (excused : Bool) : Rendezvous :=
  { state with
    memory := (state.server.response.write state.memory answer.message).2
    serverPhase := .afterWrite answer excused state.server.replyCapacity
      (state.server.response.write state.memory answer.message).1 }

def lower (state : Rendezvous) (answer : Answer) : Rendezvous :=
  { state with
    memory := state.memory.setFlag state.server.request.index Wire.emptyFlag
    serverPhase := .raising answer }

def publish (state : Rendezvous) (answer : Answer) : Rendezvous :=
  { state with
    memory := state.memory.setFlag state.server.response.index answer.status.byte
    serverPhase := .afterPublish answer
    published := state.published ++
      [⟨state.served.length - 1, answer.status.byte, state.server.response.payload state.memory⟩] }

/-- One access to shared memory by either end. The client may give up at any time while it waits. -/
inductive Step (state : Rendezvous) : Rendezvous → Prop where
  | write (opcode : Wire.Opcode) (message : Wire.Message) (idle : state.clientPhase = .idle)
      (willing : state.client.refusal? = none) : Step state (state.write opcode message)
  | raise {opcode : Wire.Opcode} {message : Wire.Message}
      (written : state.clientPhase = .written opcode message) : Step state (state.raise opcode message)
  | look {number : Nat} {opcode : Wire.Opcode} (waiting : state.clientPhase = .waiting number opcode)
      (visible : state.memory.flag state.client.response.index ≠ Wire.emptyFlag) :
      Step state (state.look number opcode)
  | timeOut {number : Nat} {opcode : Wire.Opcode} (waiting : state.clientPhase = .waiting number opcode) :
      Step state state.timeOut
  | read {α : Type} {number : Nat} {opcode : Wire.Opcode} {flag : UInt8}
      (taking : state.clientPhase = .taking number opcode flag) (reader : Wire.Status → Wire.Reader α) :
      Step state (state.read number opcode flag reader)
  | release (lowering : state.clientPhase = .lowering) : Step state state.release
  | notice {flag : UInt8} (polling : state.serverPhase = .polling)
      (pending : state.server.pending? state.memory = some flag) : Step state (state.notice flag)
  | serve {flag : UInt8} {phase : ServerPhase} (taken : state.serverPhase = .taken flag)
      (answers : Answers state.server state.memory flag phase) : Step state (state.serve flag phase)
  | reply {answer : Answer} {excused : Bool} (answering : state.serverPhase = .answering answer excused) :
      Step state (state.reply answer excused)
  | lower {answer : Answer} (lowering : state.serverPhase = .lowering answer) : Step state (state.lower answer)
  | publish {answer : Answer} (raising : state.serverPhase = .raising answer) :
      Step state (state.publish answer)

def Reaches : Rendezvous → Rendezvous → Prop := Relation.ReflTransGen Step

end Rendezvous

end SharedRecords.Channel
