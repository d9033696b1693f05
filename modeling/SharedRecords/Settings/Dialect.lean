import SharedRecords.Number.Binary
import SharedRecords.Number.Decimal
import SharedRecords.Number.Parse
import SharedRecords.Settings.Basic
import SharedRecords.Settings.Tree

/-!
Settings from a tree. Missing fields have their built-in values, unknown ones need only be legible,
and a list may stand for a group of fields in their order. What counts as a number or a text is up
to the dialect of the source.
-/

namespace SharedRecords.Settings

/-- How the values of a source are taken. -/
structure Dialect where
  natural : Tree → Option Nat
  text : Tree → Option String
  /-- The name of a choice among several. -/
  choice : Tree → Option String
  /-- A list that stands for a group may have more items than the group has fields. -/
  allowsSurplus : Bool
  /-- A date is as good as a group without fields. -/
  allowsDates : Bool

namespace Dialect

def asText? : Tree → Option String
  | .text held => some held
  | _ => none

def asNatural? : Tree → Option Nat
  | .integer value => if 0 ≤ value then some value.toNat else none
  | _ => none

def choiceOf (holdsNothing : Tree → Bool) : Tree → Option String
  | .text held => some held
  | .table [(name, held)] => if holdsNothing held then some name else none
  | _ => none

def isNothing : Tree → Bool
  | .nothing => true
  | _ => false

def isBare : Tree → Bool
  | .table [] | .list [] => true
  | _ => false

/-- Values of a JSON text, each of its own type. -/
def json : Dialect where
  natural := asNatural?
  text := asText?
  choice := choiceOf isNothing
  allowsSurplus := false
  allowsDates := false

/-- Values of a single TOML document, each of its own type. -/
def toml : Dialect where
  natural := asNatural?
  text := asText?
  choice := choiceOf isBare
  allowsSurplus := true
  allowsDates := true

def largestWord : Nat := 0xffffffffffffffff

/-- The natural number nearest to a double; a half goes up. -/
def rounded (value : Float) : Nat :=
  match Number.read value with
  | .notANumber | .infinite true | .finite true _ => 0
  | .infinite false => largestWord
  | .finite false size =>
    let (numerator, denominator) := size.ratio
    min ((2 * numerator + denominator) / (2 * denominator)) largestWord

def naturalOfText (text : String) : Option Nat :=
  let word := String.ofList (text.toList.map Char.toLower)
  if ["true", "on", "yes"].contains word then some 1
  else if ["false", "off", "no"].contains word then some 0
  else Number.unsigned? text

def convertedNatural : Tree → Option Nat
  | .truth value => some value.toNat
  | .integer value => if 0 ≤ value then some value.toNat else none
  | .float value => some (rounded value)
  | .text held | .date held => naturalOfText held
  | _ => none

def truthText (value : Bool) : String := if value then "true" else "false"

def convertedText : Tree → Option String
  | .truth value => some (truthText value)
  | .integer value => some (toString value)
  | .float value => some (Number.text value)
  | .text held | .date held => some held
  | _ => none

/-- Values of layers of sources: plain values are converted to what a field asks for. -/
def layered : Dialect where
  natural := convertedNatural
  text := convertedText
  choice := choiceOf fun _ => true
  allowsSurplus := true
  allowsDates := false

/-! ## Groups of fields -/

def group (dialect : Dialect) (names : List String) : Tree → Option (List (String × Tree))
  | .table entries =>
    if entries.all fun (name, held) => names.contains name || held.isLegible then some entries else none
  | .list items =>
    if items.length ≤ names.length || dialect.allowsSurplus then some (names.zip items) else none
  | .date _ => if dialect.allowsDates then some [] else none
  | _ => none

def field {α : Type} (fields : List (String × Tree)) (name : String) (builtIn : α)
    (read : Tree → Option α) : Option α :=
  match Tree.lookup? fields name with
  | some tree => read tree
  | none => some builtIn

def required {α : Type} (fields : List (String × Tree)) (name : String) (read : Tree → Option α) :
    Option α :=
  (Tree.lookup? fields name).bind read

def number (dialect : Dialect) (bits : Nat) (tree : Tree) : Option Nat :=
  (dialect.natural tree).filter (· < Nat.pow 2 bits)

def oneOf {α : Type} (dialect : Dialect) (name : α → String) (all : List α) (tree : Tree) : Option α :=
  (dialect.choice tree).bind fun wanted => all.find? (name · == wanted)

def listOf {α : Type} (read : Tree → Option α) : Tree → Option (List α)
  | .list items => items.mapM read
  | _ => none

def regions (dialect : Dialect) (tree : Tree) : Option Regions := do
  let builtIn : Regions := {}
  let fields ← dialect.group ["capacity", "backing", "directory"] tree
  let capacity ← field fields "capacity" builtIn.capacity (dialect.number 64)
  let backing ← field fields "backing" builtIn.backing (dialect.oneOf RegionKind.name RegionKind.all)
  let directory ← field fields "directory" builtIn.directory dialect.text
  pure { capacity, backing, directory }

def sessions (dialect : Dialect) (tree : Tree) : Option Sessions := do
  let builtIn : Sessions := {}
  let fields ← dialect.group
    ["wait", "sleep_micros", "spin_limit", "poll_timeout_ms", "thread_name_prefix"] tree
  let wait ← field fields "wait" builtIn.wait (dialect.oneOf WaitMode.name WaitMode.all)
  let sleepMicroseconds ← field fields "sleep_micros" builtIn.sleepMicroseconds (dialect.number 64)
  let spinLimit ← field fields "spin_limit" builtIn.spinLimit (dialect.number 32)
  let pollTimeoutMilliseconds ←
    field fields "poll_timeout_ms" builtIn.pollTimeoutMilliseconds (dialect.number 64)
  let namePrefix ← field fields "thread_name_prefix" builtIn.namePrefix dialect.text
  pure { wait, sleepMicroseconds, spinLimit, pollTimeoutMilliseconds, namePrefix }

def table (dialect : Dialect) (tree : Tree) : Option Table := do
  let fields ← dialect.group ["name", "columns"] tree
  let name ← required fields "name" dialect.text
  let columns ← required fields "columns" (listOf dialect.text)
  pure { name, columns }

def tables (dialect : Dialect) (tree : Tree) : Option Tables := do
  let builtIn : Tables := {}
  let fields ← dialect.group ["location", "tables"] tree
  let location ← field fields "location" builtIn.location dialect.text
  let tables ← field fields "tables" builtIn.tables (listOf dialect.table)
  pure { location, tables }

def settings (dialect : Dialect) (tree : Tree) : Option Settings := do
  let fields ← dialect.group ["region", "session", "schema"] tree
  let region ← field fields "region" {} dialect.regions
  let session ← field fields "session" {} dialect.sessions
  let schema ← field fields "schema" {} dialect.tables
  pure { region, session, schema }

end Dialect

end SharedRecords.Settings
