import SharedRecords.KeyMap
import SharedRecords.Region.Memory
import SharedRecords.Text.Path

/-!
The files that regions live in. A path is walked name by name from the root: `.` stays, `..`
goes up, and a file ends the way of whatever stands behind it.
-/

namespace SharedRecords.Region

inductive Node where
  | folder
  /-- A file: the cell with its bytes and their number. -/
  | file (content : Window)
  /-- Something that takes any bytes, keeps none and cannot be mapped. -/
  | sink
  deriving DecidableEq, Repr, Inhabited

/-- Nodes below the root by the names that lead to them. -/
structure Volume where
  nodes : KeyMap Node
  deriving Inhabited

/-- Where a path leads. -/
inductive Place where
  | found (key : String) (node : Node)
  /-- Nothing is there, but the folder that would hold it is. -/
  | vacant (key : String)
  /-- A folder on the way does not exist. -/
  | missing
  /-- A file stands in the way, or no file can have the name. -/
  | obstructed
  deriving DecidableEq, Repr

namespace Volume

def empty : Volume := ⟨.empty⟩

/-- The key of a node, from its names in reverse. -/
def key (trail : List String) : String := "/".intercalate trail.reverse

def node? (volume : Volume) (trail : List String) : Option Node :=
  if trail.isEmpty then some .folder else volume.nodes.find? (key trail)

def isName (name : String) : Bool := name.utf8ByteSize ≤ 255

/-- Paths have less than 4096 bytes, none of them zero. Any other path is refused before a folder
is looked at. -/
def isPath (path : String) : Bool := path.utf8ByteSize < 4096 && !path.toList.contains '\x00'

def walk (volume : Volume) (trail : List String) : List String → Place
  | [] =>
    match volume.node? trail with
    | some node => .found (key trail) node
    | none => .vacant (key trail)
  | name :: rest =>
    match volume.node? trail with
    | none => .missing
    | some (.file _) | some .sink => .obstructed
    | some .folder =>
      if !Text.Path.isStep name then volume.walk trail rest
      else if name = ".." then volume.walk (trail.drop 1) rest
      else if isName name then volume.walk (name :: trail) rest
      else .obstructed

def place (volume : Volume) (path : String) : Place :=
  if isPath path then volume.walk [] (Text.Path.names path) else .obstructed

def put (volume : Volume) (key : String) (node : Node) : Volume := ⟨volume.nodes.insert key node⟩

def remove (volume : Volume) (key : String) : Volume := ⟨volume.nodes.erase key⟩

/-- The volume with every folder along the path, unless something stands in the way. -/
def makeFolders (volume : Volume) (trail : List String) : List String → Option Volume
  | [] => some volume
  | name :: rest =>
    if !Text.Path.isStep name then volume.makeFolders trail rest
    else if name = ".." then volume.makeFolders (trail.drop 1) rest
    else if isName name then
      match volume.node? (name :: trail) with
      | some (.file _) | some .sink => none
      | some .folder => volume.makeFolders (name :: trail) rest
      | none => (volume.put (key (name :: trail)) .folder).makeFolders (name :: trail) rest
    else none

def makeFolder (volume : Volume) (path : String) : Option Volume :=
  if isPath path then volume.makeFolders [] (Text.Path.names path) else none

def isFile : Node → Bool
  | .file _ => true
  | .folder | .sink => false

def fileCount (volume : Volume) (path : String) : Nat :=
  match volume.place path with
  | .found key .folder =>
    volume.nodes.entries.countP fun (name, node) =>
      isFile node && name.startsWith (key ++ "/") && !((name.drop (key.length + 1)).contains '/')
  | _ => 0

end Volume

end SharedRecords.Region
