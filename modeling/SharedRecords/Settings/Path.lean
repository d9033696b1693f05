import SharedRecords.Number.Parse
import SharedRecords.Settings.Tree

/-!
Paths into a tree, such as `region.capacity` or `schema.tables[0].name`.
-/

namespace SharedRecords.Settings

/-- One step of a path. -/
inductive Step where
  | name (key : String)
  /-- A place in a list; a negative one is counted from its end. -/
  | place (position : Int)
  deriving DecidableEq, Repr

namespace Step

def isNameCharacter (character : Char) : Bool :=
  character.isAlphanum || character == '_' || character == '-'

def isBlank (character : Char) : Bool := character == ' ' || character == '\t'

def trimmed (text : List Char) : List Char :=
  ((text.dropWhile isBlank).reverse.dropWhile isBlank).reverse

def position? (text : List Char) : Option Int :=
  let found := match trimmed text with
    | '-' :: digits => (Number.natural? digits).map fun position => -(position : Int)
    | digits => (Number.natural? digits).map fun position => (position : Int)
  found.filter fun position => -0x8000000000000000 ≤ position && position < 0x8000000000000000

/-- The steps behind the first name. -/
def further? : Nat → List Char → Option (List Step)
  | 0, _ => none
  | _ + 1, [] => some []
  | fuel + 1, '.' :: rest =>
    let found := rest.takeWhile isNameCharacter
    if found.isEmpty then none
    else (further? fuel (rest.dropWhile isNameCharacter)).map (.name (String.ofList found) :: ·)
  | fuel + 1, '[' :: rest =>
    let digits := rest.takeWhile (· != ']')
    match rest.drop digits.length with
    | ']' :: later => (position? digits).bind fun position => (further? fuel later).map (.place position :: ·)
    | _ => none
  | _ + 1, _ => none

def path (key : String) : List Step := ((further? (key.length + 2) ('.' :: key.toList))).getD [.name key]

example : path "schema.tables[-1].name" = [.name "schema", .name "tables", .place (-1), .name "name"] := by
  decide +kernel

example : path "a..b" = [.name "a..b"] := by decide +kernel

end Step

namespace Tree

def entries : Tree → List (String × Tree)
  | .table held => held
  | _ => []

def items : Tree → List Tree
  | .list held => held
  | _ => []

/-- Changes what stands under a key, or adds it to the end. -/
def alter (key : String) (edit : Tree → Tree) : List (String × Tree) → List (String × Tree)
  | [] => [(key, edit .nothing)]
  | (other, held) :: rest =>
    if other = key then (key, edit held) :: rest else (other, held) :: alter key edit rest

def reaching (items : List Tree) : Int → Nat × List Tree
  | .ofNat position => (position, items ++ List.replicate (position + 1 - items.length) .nothing)
  | .negSucc position =>
    (items.length - (position + 1),
      List.replicate (position + 1 - items.length) .nothing ++ items)

/-- Changes what stands at the end of a path. Whatever is not of the kind that the path asks for is
replaced. -/
def change (edit : Tree → Tree) : List Step → Tree → Tree
  | [], tree => edit tree
  | .name key :: rest, tree => .table (alter key (change edit rest) tree.entries)
  | .place position :: rest, tree =>
    let (index, items) := reaching tree.items position
    .list (items.modify index (change edit rest))

mutual

/-- Lays one tree over another. Tables are joined key by key, and any other value replaces what
stood there before. -/
def overlay (base : Tree) : Tree → Tree
  | .table held => .table (overlayEach base.entries held)
  | other => other

def overlayEach (base : List (String × Tree)) : List (String × Tree) → List (String × Tree)
  | [] => base
  | (key, held) :: rest => overlayEach (alter key (fun old => overlay old held) base) rest

end

end Tree

end SharedRecords.Settings
