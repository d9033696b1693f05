import SharedRecords.Settings.Tree

/-!
A document while it is read. A table remembers how it came about, since that decides what may
still be added to it: a table is stated at most once, and a value is never extended.
-/

namespace SharedRecords.Toml

open Settings (Tree)

/-- How a table came about. -/
inductive Origin where
  | stated
  /-- By the header of a table below it. -/
  | implied
  | dotted
  deriving DecidableEq, Repr

/-- What keys with dots have to do with a table that only the header of a table below it implies. -/
inductive Dots where
  /-- They lead through such a table and add nothing to it. -/
  | separate
  /-- They make it one of theirs, and no header opens it later. -/
  | shared
  deriving DecidableEq, Repr

/-- How a path leads down. -/
structure Way where
  /-- The origin of tables that are missing on the way. -/
  made : Origin
  /-- What becomes of a table on the way, if the path may pass. -/
  pass : Origin → Option Origin

namespace Way

def header : Way := ⟨.implied, some⟩

def dotted (dots : Dots) : Way where
  made := .dotted
  pass
    | .stated => none
    | .implied => some (if dots = .shared then .dotted else .implied)
    | .dotted => some .dotted

end Way

inductive Node where
  /-- A value, which may itself be a list or a table between braces. -/
  | value (tree : Tree)
  | table (origin : Origin) (entries : List (String × Node))
  /-- Tables under a header in double brackets, of which there is at least one. -/
  | series (latest : List (String × Node)) (earlier : List (List (String × Node)))

abbrev Entries := List (String × Node)

/-! ## Reading off the tree -/

mutual

def Node.tree : Node → Tree
  | .value held => held
  | .table _ entries => .table (trees entries)
  | .series latest earlier => .list ((Tree.table (trees latest) :: tables earlier).reverse)

def trees : List (String × Node) → List (String × Tree)
  | [] => []
  | (key, node) :: rest => (key, node.tree) :: trees rest

def tables : List (List (String × Node)) → List Tree
  | [] => []
  | entries :: rest => .table (trees entries) :: tables rest

end

/-! ## Changing a document -/

namespace Entries

/-- Changes what stands under a key, or adds it. -/
def alter (key : String) (edit : Option Node → Option Node) : Entries → Option Entries
  | [] => (edit none).map fun node => [(key, node)]
  | (other, held) :: rest =>
    if other = key then (edit (some held)).map fun node => (key, node) :: rest
    else (alter key edit rest).map ((other, held) :: ·)

/-- Changes the table at the end of a path. Tables that are missing on the way are made, and a list
of tables leads to its latest one. -/
def within (way : Way) (edit : Origin → Entries → Option Entries) :
    List String → Origin → Entries → Option Entries
  | [], origin, entries => edit origin entries
  | first :: rest, _, entries =>
    alter first
      (fun
        | none => (within way edit rest way.made []).map (.table way.made)
        | some (.table origin held) =>
          match way.pass origin with
          | none => none
          | some passed => (within way edit rest passed held).map (.table passed)
        | some (.series latest earlier) =>
          (within way edit rest .stated latest).map fun later => .series later earlier
        | some (.value _) => none)
      entries

def add (key : String) (value : Tree) : Entries → Option Entries :=
  alter key fun
    | none => some (.value value)
    | some _ => none

def assign (dots : Dots) (path : List String) (value : Tree) (entries : Entries) : Option Entries :=
  match path.reverse with
  | [] => none
  | [key] => entries.add key value
  | key :: parents =>
    within (.dotted dots) (fun origin held => if origin = .dotted then held.add key value else none)
      parents.reverse .stated entries

def below (edit : Origin → Entries → Option Entries) (path : List String) (entries : Entries) :
    Option Entries :=
  within .header edit path .stated entries

/-- Opens a table by its header. -/
def openTable (path : List String) (entries : Entries) : Option Entries :=
  match path.reverse with
  | [] => none
  | key :: parents =>
    below
      (fun _ =>
        alter key fun
          | none => some (.table .stated [])
          | some (.table .implied held) => some (.table .stated held)
          | some _ => none)
      parents.reverse entries

/-- Opens the next table of a list by its header. -/
def openElement (path : List String) (entries : Entries) : Option Entries :=
  match path.reverse with
  | [] => none
  | key :: parents =>
    below
      (fun _ =>
        alter key fun
          | none => some (.series [] [])
          | some (.series latest earlier) => some (.series [] (latest :: earlier))
          | some _ => none)
      parents.reverse entries

end Entries

end SharedRecords.Toml
