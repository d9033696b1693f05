import SharedRecords.Settings.Dialect
import SharedRecords.Settings.Path
import SharedRecords.Text.LowerCase
import SharedRecords.Toml.Document

/-!
Settings from several sources. Later sources go over earlier ones: the built-in values, the user's
file, the project's file, the project's local file, and the variables of the environment.
-/

namespace SharedRecords.Settings

/-- What can be read, each source only if it exists. -/
structure Sources where
  user : Option String := none
  project : Option String := none
  /-- The file that overrides that of the project on one machine. -/
  override : Option String := none
  environment : List (String × String) := []
  /-- Variables under other names are ignored. -/
  variablePrefix : String := "SHMDB"

/-- The stage at which loading stopped. -/
inductive LoadError where
  | building
  /-- A value is not what its field asks for. -/
  | reading
  | validating (error : Error)
  deriving DecidableEq, Repr, Inhabited

namespace LoadError

def message : LoadError → String
  | building => "Failed to build configuration"
  | reading => "Failed to deserialize configuration"
  | validating _ => "Configuration failed validation"

/-- What is wrong with settings that could be read. -/
def fault? : LoadError → Option Error
  | validating error => some error
  | _ => none

end LoadError

namespace Sources

/-- Whether every whole number fits a signed word. -/
def fitsWord (value : Int) : Bool := -0x8000000000000000 ≤ value && value < 0x8000000000000000

def fits : Tree → Bool :=
  Tree.every fun
    | .integer value => fitsWord value
    | .unread _ => false
    | _ => true

/-- Puts each value where the path of its key leads. -/
def lay (base : Tree) (entries : List (String × Tree)) : Tree :=
  entries.foldl (fun tree (key, held) => Tree.change (fun old => Tree.overlay old held) (Step.path key) tree)
    base

/-- Lays a file over what is there; a file that does not exist changes nothing. -/
def layFile (base : Tree) : Option String → Option Tree
  | none => some base
  | some document => ((Toml.parse .shared document).filter fits).map fun tree => lay base tree.entries

/-- The value of a variable: a truth value, a number, or else its text. -/
def variableValue (text : String) : Tree :=
  let word := String.ofList (Text.lowerCase text.toList)
  if word = "true" then .truth true
  else if word = "false" then .truth false
  else
    match (Number.whole? text).filter fitsWord with
    | some value => .integer value
    | none =>
      match Number.float? text with
      | some value => .float value
      | none => .text text

def behind? : List Char → List Char → Option (List Char)
  | [], rest => some rest
  | _, [] => none
  | expected :: start, found :: rest => if expected = found then behind? start rest else none

/-- Two underscores separate the levels of a path. -/
def dotted : List Char → List Char
  | '_' :: '_' :: rest => '.' :: dotted rest
  | first :: rest => first :: dotted rest
  | [] => []

def variableKey? (start name : String) : Option String :=
  (behind? (Text.lowerCase (start.toList ++ ['_'])) (Text.lowerCase name.toList)).map fun rest =>
    String.ofList (dotted rest)

def layVariables (sources : Sources) (base : Tree) : Tree :=
  lay base <| sources.environment.filterMap fun (name, value) =>
    (variableKey? sources.variablePrefix name).map fun key => (key, variableValue value)

def tree? (sources : Sources) : Option Tree := do
  let user ← layFile .empty sources.user
  let project ← layFile user sources.project
  let override ← layFile project sources.override
  pure (sources.layVariables override)

/-- Loads settings for a project in a directory. -/
def load (sources : Sources) (directory : String) : Except LoadError Settings :=
  match sources.tree? with
  | none => .error .building
  | some tree =>
    match Dialect.layered.settings tree with
    | none => .error .reading
    | some read =>
      let settings := read.resolve directory
      match settings.validate with
      | .error error => .error (.validating error)
      | .ok () => .ok settings

def loadOrBuiltIn (sources : Sources) (directory : String) : Settings :=
  match sources.load directory with
  | .ok settings => settings
  | .error _ => builtIn

end Sources

end SharedRecords.Settings
