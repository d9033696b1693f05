import SharedRecords.Duration
import SharedRecords.Wire.Code

/-!
Waiting for a flag. A poller looks at the flag again and again; between looks it first spins, then
follows its strategy. The clock is read on every empty look behind the spin limit, and on every
1024th before it.
-/

namespace SharedRecords.Channel

/-- What a poller does between looks once it has spun enough. -/
inductive Strategy where
  | spin
  | yield
  | sleep (interval : Duration)
  deriving DecidableEq, Repr, Inhabited

namespace Strategy

def description : Strategy → String
  | spin => "Spin"
  | yield => "Yield"
  | sleep interval => "Sleep(" ++ interval.text ++ ")"

end Strategy

structure Poller where
  strategy : Strategy
  /-- Empty looks before the strategy applies. -/
  spinLimit : UInt32
  deadline : Option Duration
  deriving DecidableEq, Repr, Inhabited

/-- One look: the flag, and the time since waiting began. -/
structure Look where
  flag : UInt8
  elapsed : Duration
  deriving DecidableEq, Repr

/-- What waiting has come to. -/
inductive Wait where
  | raised (flag : UInt8)
  | elapsed (waited : Duration)
  | waiting
  deriving DecidableEq, Repr

namespace Poller

/-- Looks between two readings of the clock while spinning. -/
def clockInterval : Nat := 1024

def greatestCount : Nat := 0xffffffff

def countLook (looks : Nat) : Nat := min (looks + 1) greatestCount

def isSpinning (poller : Poller) (looks : Nat) : Bool := looks ≤ poller.spinLimit.toNat

def readsClock (poller : Poller) (looks : Nat) : Bool :=
  !poller.isSpinning looks || looks % clockInterval == 0

def isOver (poller : Poller) (looks : Nat) (elapsed : Duration) : Bool :=
  match poller.deadline with
  | some deadline => poller.readsClock looks && deadline ≤ elapsed
  | none => false

def waitFrom (poller : Poller) (looks : Nat) : List Look → Wait
  | [] => .waiting
  | look :: rest =>
    if look.flag != Wire.emptyFlag then .raised look.flag
    else if poller.isOver (countLook looks) look.elapsed then .elapsed look.elapsed
    else poller.waitFrom (countLook looks) rest

def wait (poller : Poller) (looks : List Look) : Wait := poller.waitFrom 0 looks

/-- Behind this look, a poller that spins for as long as looks are counted reads the clock for the last
time. -/
def lastReading : Nat := greatestCount / clockInterval * clockInterval

/-- Looks of a poller that spins, unless the platform is known to be slower or faster. -/
def usualPace : Duration := .ofMicroseconds 1

/-- Whether the deadline passes while the clock is still read, where no look takes longer than the pace. -/
def notices (poller : Poller) (pace deadline : Duration) : Bool :=
  !poller.isSpinning greatestCount || deadline.nanoseconds ≤ lastReading * pace.nanoseconds

def settle (poller : Poller) (pace : Duration) (flag : UInt8) : Wait :=
  if flag != Wire.emptyFlag then .raised flag
  else
    match poller.deadline with
    | some deadline => if poller.notices pace deadline then .elapsed deadline else .waiting
    | none => .waiting

theorem waitFrom_of_raised (poller : Poller) (looks : Nat) {look : Look} (rest : List Look)
    (raised : look.flag ≠ Wire.emptyFlag) :
    poller.waitFrom looks (look :: rest) = .raised look.flag := by
  simp [waitFrom, raised]

end Poller

end SharedRecords.Channel
