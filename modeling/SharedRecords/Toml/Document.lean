import SharedRecords.Toml.Value

/-!
Documents: lines that assign a value to a key, under headers that open tables.
-/

namespace SharedRecords.Toml

open Settings (Tree)

/-- A document up to some line, and where its next assignment goes. -/
structure Draft where
  entries : Entries
  current : List String

namespace Draft

def empty : Draft := ⟨[], []⟩

def assign (dots : Dots) (draft : Draft) (path : List String) (held : Tree) : Option Draft :=
  (draft.entries.below (fun _ table => table.assign dots path held) draft.current).map fun entries =>
    { draft with entries }

def openTable (draft : Draft) (path : List String) : Option Draft :=
  (draft.entries.openTable path).map fun entries => ⟨entries, path⟩

def openElement (draft : Draft) (path : List String) : Option Draft :=
  (draft.entries.openElement path).map fun entries => ⟨entries, path⟩

/-- Takes in what a line states, if it is neither blank nor a comment. -/
def statement (dots : Dots) (draft : Draft) (text : List Char) : Parsed Draft :=
  match text with
  | '[' :: '[' :: rest =>
    match key rest with
    | some (path, ']' :: ']' :: later) => (draft.openElement path).map fun opened => (opened, later)
    | _ => none
  | '[' :: rest =>
    match key rest with
    | some (path, ']' :: later) => (draft.openTable path).map fun opened => (opened, later)
    | _ => none
  | _ =>
    match assignment (some ∘ skipBlanks) value text with
    | some ((path, held), later) => (draft.assign dots path held).map fun assigned => (assigned, later)
    | none => none

def endOfLine (text : List Char) : Option (List Char) :=
  match skipBlanks text with
  | '#' :: rest => skipComment rest
  | rest => some rest

def lines (dots : Dots) : Nat → Draft → List Char → Option Draft
  | 0, _, _ => none
  | fuel + 1, draft, text =>
    match skipGap text with
    | none => none
    | some [] => some draft
    | some start =>
      match draft.statement dots start with
      | none => none
      | some (later, rest) =>
        match endOfLine rest with
        | some [] => some later
        | some behind =>
          match lineEnd? behind with
          | some next => lines dots fuel later next
          | none => none
        | none => none

end Draft

/-- A mark of the byte order in front of a document says nothing. -/
def withoutMark : List Char → List Char
  | '\ufeff' :: rest => rest
  | text => text

def parse (dots : Dots) (document : String) : Option Tree :=
  let text := withoutMark document.toList
  (Draft.empty.lines dots (text.length + 1) text).map fun draft => .table (trees draft.entries)

end SharedRecords.Toml
