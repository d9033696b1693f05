/-!
The states of a session. A session that starts goes through all of them in order; one that fails
to start is terminated from where it stood.
-/

namespace SharedRecords.Session

inductive State where
  /-- The regions are known but not mapped. -/
  | created
  /-- Both regions are mapped and their flags lowered. -/
  | attached
  /-- The store has opened a context. -/
  | ready
  | serving
  /-- The last response is published, and what the session holds is given back. -/
  | closing
  | terminated
  deriving DecidableEq, Repr, Inhabited

namespace State

def all : List State := [created, attached, ready, serving, closing, terminated]

def byte : State → UInt8
  | created => 0
  | attached => 1
  | ready => 2
  | serving => 3
  | closing => 4
  | terminated => 5

def name : State → String
  | created => "created"
  | attached => "attached"
  | ready => "ready"
  | serving => "serving"
  | closing => "closing"
  | terminated => "terminated"

def isTerminal (state : State) : Bool := state == terminated

def canAdvance : State → State → Bool
  | created, attached | created, terminated => true
  | attached, ready | attached, terminated => true
  | ready, serving => true
  | serving, closing => true
  | closing, terminated => true
  | _, _ => false

theorem byte_lt_of_canAdvance {first second : State} (legal : canAdvance first second = true) :
    first.byte < second.byte := by
  revert legal
  cases first <;> cases second <;> decide

end State

end SharedRecords.Session
