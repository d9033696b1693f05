/-!
Settings before they are read into their fields: a tree of tables, lists and plain values.
-/

namespace SharedRecords.Settings

inductive Tree where
  | nothing
  | truth (value : Bool)
  | integer (value : Int)
  | float (value : Float)
  | text (value : String)
  | date (written : String)
  /-- A word that is formed like a number and stands for none. It does no harm until it is read. -/
  | unread (written : String)
  | list (items : List Tree)
  | table (entries : List (String × Tree))
  deriving Inhabited

namespace Tree

def empty : Tree := .table []

def lookup? (entries : List (String × Tree)) (key : String) : Option Tree :=
  (entries.find? (·.1 == key)).map (·.2)

/-! ## What holds of every plain value -/

mutual

def every (holds : Tree → Bool) : Tree → Bool
  | .list items => everyOf holds items
  | .table entries => everyUnder holds entries
  | plain => holds plain

def everyOf (holds : Tree → Bool) : List Tree → Bool
  | [] => true
  | item :: rest => every holds item && everyOf holds rest

def everyUnder (holds : Tree → Bool) : List (String × Tree) → Bool
  | [] => true
  | (_, item) :: rest => every holds item && everyUnder holds rest

end

def isLegible : Tree → Bool :=
  every fun
    | .unread _ => false
    | _ => true

end Tree

end SharedRecords.Settings
