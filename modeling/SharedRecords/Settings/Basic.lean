import SharedRecords.Client.Options
import SharedRecords.Session.Options
import SharedRecords.Settings.Error
import SharedRecords.Schema
import SharedRecords.Text.Path

/-!
Settings: how large regions are and where they live, how the parties wait, and which tables there
are. Valid settings name every table and column once.
-/

namespace SharedRecords

namespace Settings

inductive RegionKind where
  | anonymous
  | file
  deriving DecidableEq, Repr, Inhabited

namespace RegionKind

def all : List RegionKind := [anonymous, file]

def name : RegionKind → String
  | anonymous => "anonymous"
  | file => "file"

end RegionKind

inductive WaitMode where
  | spin
  | yield
  | sleep
  deriving DecidableEq, Repr, Inhabited

namespace WaitMode

def all : List WaitMode := [spin, yield, sleep]

def name : WaitMode → String
  | spin => "spin"
  | yield => "yield"
  | sleep => "sleep"

def strategy (interval : Duration) : WaitMode → Channel.Strategy
  | spin => .spin
  | yield => .yield
  | sleep => .sleep interval

end WaitMode

structure Regions where
  /-- Bytes of every region, the flag included. -/
  capacity : Nat := Session.defaultCapacity
  backing : RegionKind := .anonymous
  /-- The folder of regions that are files. -/
  directory : String := "/dev/shm/shmdb"
  deriving DecidableEq, Repr, Inhabited

structure Sessions where
  wait : WaitMode := .sleep
  sleepMicroseconds : Nat := 1
  spinLimit : Nat := 1000
  /-- How long a client waits for a response; zero waits forever. -/
  pollTimeoutMilliseconds : Nat := 0
  namePrefix : String := "shmdb-session"
  deriving DecidableEq, Repr, Inhabited

structure Tables where
  /-- Where the store keeps its records. -/
  location : String := ":memory:"
  tables : List Table := []
  deriving DecidableEq, Repr, Inhabited

namespace Tables

def benchmark (fields : Nat) : Tables :=
  { tables := [⟨"usertable", (List.range fields).map fun index => s!"field{index}"⟩] }

def schema (tables : Tables) : Schema := ⟨tables.tables, tables.location⟩

end Tables

end Settings

structure Settings where
  region : Settings.Regions := {}
  session : Settings.Sessions := {}
  schema : Settings.Tables := {}
  deriving DecidableEq, Repr, Inhabited

namespace Settings

def builtIn : Settings := {}

def lowLatency : Settings := { session := { wait := .spin } }

/-- Idle sessions leave the processor to others. -/
def powerSaving : Settings := { session := { wait := .sleep, sleepMicroseconds := 50, spinLimit := 0 } }

def resolve (settings : Settings) (base : String) : Settings :=
  { settings with
    region := { settings.region with directory := Text.Path.join base settings.region.directory } }

def repeated? : List String → List String → Option String
  | _, [] => none
  | seen, first :: rest => if seen.contains first then some first else repeated? (first :: seen) rest

/-- What is wrong with the first faulty table. -/
def tableFault? : List String → List Table → Option String
  | _, [] => none
  | seen, table :: rest =>
    if table.name.isEmpty then some "table names must not be empty"
    else if seen.contains table.name then some s!"duplicate table {table.name}"
    else
      match repeated? [] table.columns with
      | some column => some (s!"duplicate column {column} in table " ++ table.name)
      | none => tableFault? (table.name :: seen) rest

def fault? (settings : Settings) : Option String :=
  if settings.region.capacity ≤ 1 then
    some s!"region.capacity must exceed the 1-byte flag header, got {settings.region.capacity}"
  else if settings.session.namePrefix.isEmpty then some "session.thread_name_prefix must not be empty"
  else tableFault? [] settings.schema.tables

def validate (settings : Settings) : Except Error Unit :=
  match settings.fault? with
  | some reason => .error (.invalid reason)
  | none => .ok ()

namespace Sessions

def strategy (sessions : Sessions) : Channel.Strategy :=
  sessions.wait.strategy (.ofMicroseconds sessions.sleepMicroseconds)

def pollTimeout (sessions : Sessions) : Option Duration :=
  if sessions.pollTimeoutMilliseconds = 0 then none
  else some (.ofMilliseconds sessions.pollTimeoutMilliseconds)

end Sessions

def sessionOptions (settings : Settings) : Session.Options :=
  ⟨settings.region.capacity, settings.session.strategy, UInt32.ofNat settings.session.spinLimit,
    settings.session.namePrefix⟩

def clientOptions (settings : Settings) : Client.Options where
  wait := settings.session.strategy
  spinLimit := UInt32.ofNat settings.session.spinLimit
  pollTimeout := settings.session.pollTimeout

end Settings

end SharedRecords
