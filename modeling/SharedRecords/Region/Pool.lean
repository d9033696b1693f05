import SharedRecords.Region.Error
import SharedRecords.Region.Memory
import SharedRecords.Region.Volume

/-!
Pools hand out regions, map them and take them back. A region can be mapped from the call that
allocates it to the call that releases it, and a mapping outlives the release.
-/

namespace SharedRecords.Region

/-- Where the regions of a pool come from. -/
inductive Backing where
  /-- Memory of this process, for at most so many live regions. -/
  | anonymous (limit : Option Nat)
  /-- One file for each region, in a folder. -/
  | folder (path : String)
  deriving DecidableEq, Repr, Inhabited

structure Pool where
  backing : Backing
  memory : Memory
  volume : Volume
  /-- The live anonymous regions by number. -/
  live : List (Nat × Window)
  issued : Nat
  /-- No region has more bytes than the platform can place. -/
  largest : Nat
  /-- What the platform says to the coming requests; after the last one it grants them all. -/
  verdicts : List (Option Error)
  deriving Inhabited

namespace Pool

/-- The largest power of two that leaves room beside it where addresses have 47 bits. -/
def addressable : Nat := 0x400000000000

def anonymous (volume : Volume) (limit : Option Nat) : Pool :=
  ⟨.anonymous limit, .empty, volume, [], 0, addressable, []⟩

def obstructed : Error := .io "not a directory"

def inFolder (volume : Volume) (path : String) : Except Error Pool :=
  match volume.makeFolder path with
  | some made => .ok ⟨.folder path, .empty, made, [], 0, addressable, []⟩
  | none => .error obstructed

def name (pool : Pool) : String :=
  match pool.backing with
  | .anonymous _ => "anonymous"
  | .folder _ => "file"

def setMemory (pool : Pool) (memory : Memory) : Pool := { pool with memory }

def window? (pool : Pool) (number : Nat) : Option Window :=
  (pool.live.find? (·.1 == number)).map (·.2)

def liveCount (pool : Pool) : Nat :=
  match pool.backing with
  | .anonymous _ => pool.live.length
  | .folder path => pool.volume.fileCount path

def ask (pool : Pool) : Option Error × Pool :=
  match pool.verdicts with
  | [] => (none, pool)
  | verdict :: rest => (verdict, { pool with verdicts := rest })

/-- What stands against allocating, before the platform is asked. -/
def refusal (pool : Pool) (capacity : Nat) : Option Error :=
  if capacity < minimumCapacity then some (.capacityTooSmall capacity minimumCapacity)
  else
    match pool.backing with
    | .anonymous (some limit) => if limit ≤ pool.live.length then some (.exhausted limit) else none
    | _ => none

def fileName (number : Nat) : String :=
  "shmdb-" ++ String.ofList ((Nat.toDigits 10 number).leftpad 36 '0') ++ ".region"

/-- A region of zeros and the number it is handed out under. -/
def grant (pool : Pool) (capacity : Nat) : Except Error Handle × Pool :=
  let number := pool.issued + 1
  let window : Window := ⟨pool.memory.next, capacity⟩
  let memory := pool.memory.add .blank
  match pool.backing with
  | .anonymous _ =>
    (.ok (.anonymous number),
      { pool with memory, live := pool.live ++ [(number, window)], issued := number })
  | .folder path =>
    let path := Text.Path.join path (fileName number)
    match pool.volume.place path with
    | .vacant key =>
      (.ok (.file path),
        { pool with memory, volume := pool.volume.put key (.file window), issued := number })
    | .found .. => (.error (.io "file exists"), pool)
    | .missing => (.error (.io "no such file or directory"), pool)
    | .obstructed => (.error obstructed, pool)

def allocate (pool : Pool) (capacity : Nat) : Except Error Handle × Pool :=
  match pool.refusal capacity with
  | some error => (.error error, pool)
  | none =>
    match pool.ask with
    | (some error, asked) => (.error error, asked)
    | (none, asked) =>
      if pool.largest < capacity then (.error (.io "cannot allocate memory"), asked)
      else asked.grant capacity

/-- The region a handle leads to; a file may have become too short for one. -/
def locate (pool : Pool) (handle : Handle) : Except Error Window :=
  match pool.backing, handle with
  | .anonymous _, .anonymous number =>
    match pool.window? number with
    | some window => .ok window
    | none => .error (.unknownRegion handle)
  | .folder _, .file path =>
    match pool.volume.place path with
    | .found _ (.file window) =>
      if window.capacity < minimumCapacity then .error (.capacityTooSmall window.capacity minimumCapacity)
      else .ok window
    | .found _ .sink => .error (.mapFailed handle "no such device")
    | .found _ .folder => .error (.io "is a directory")
    | .vacant _ | .missing => .error (.unknownRegion handle)
    | .obstructed => .error obstructed
  | _, _ => .error (.foreignHandle handle)

def map (pool : Pool) (handle : Handle) : Except Error Mapping × Pool :=
  match pool.locate handle with
  | .error error => (.error error, pool)
  | .ok window =>
    match pool.ask with
    | (some error, asked) => (.error error, asked)
    | (none, asked) => (.ok { window with handle }, asked)

def release (pool : Pool) (handle : Handle) : Except Error Unit × Pool :=
  match pool.backing, handle with
  | .anonymous _, .anonymous number =>
    match pool.window? number with
    | some _ => (.ok (), { pool with live := pool.live.filter (·.1 != number) })
    | none => (.error (.unknownRegion handle), pool)
  | .folder _, .file path =>
    match pool.volume.place path with
    | .found key (.file _) | .found key .sink => (.ok (), { pool with volume := pool.volume.remove key })
    | .found _ .folder => (.error (.io "is a directory"), pool)
    | .vacant _ | .missing => (.error (.unknownRegion handle), pool)
    | .obstructed => (.error obstructed, pool)
  | _, _ => (.error (.foreignHandle handle), pool)

def allocateMapped (pool : Pool) (capacity : Nat) : Except Error Mapping × Pool :=
  match pool.allocate capacity with
  | (.error error, later) => (.error error, later)
  | (.ok handle, allocated) =>
    match allocated.map handle with
    | (.ok mapping, mapped) => (.ok mapping, mapped)
    | (.error error, refused) => (.error error, (refused.release handle).2)

/-- Writes a file from outside. One that is there already is written over: every mapping of it shows
the new content, and zeros behind that, as far as it reached before. -/
def writeFile (pool : Pool) (path : String) (bytes : List UInt8) : Except Error Pool :=
  match pool.volume.place path with
  | .found key (.file window) =>
    .ok { pool with
      memory := pool.memory.change window.index fun _ => .ofBytes bytes
      volume := pool.volume.put key (.file { window with capacity := bytes.length }) }
  | .vacant key =>
    .ok { pool with
      memory := pool.memory.add (.ofBytes bytes)
      volume := pool.volume.put key (.file ⟨pool.memory.next, bytes.length⟩) }
  | .found _ .sink => .ok pool
  | .found _ .folder => .error (.io "is a directory")
  | .missing => .error (.io "no such file or directory")
  | .obstructed => .error obstructed

def fileBytes? (pool : Pool) (path : String) : Option (List UInt8) :=
  match pool.volume.place path with
  | .found _ (.file window) => some (window.bytes pool.memory)
  | .found _ .sink => some []
  | _ => none

end Pool

end SharedRecords.Region
