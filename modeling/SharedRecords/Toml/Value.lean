import SharedRecords.Toml.Node
import SharedRecords.Toml.Scalar

/-!
Values of a document: words, strings, lists between brackets and tables between braces, nested to
a fixed depth.
-/

namespace SharedRecords.Toml

open Settings (Tree)

/-- The values of a list up to its closing bracket, and those found before in reverse. -/
def listItems (value : List Char → Parsed Tree) : Nat → List Tree → List Char → Parsed Tree
  | 0, _, _ => none
  | fuel + 1, found, text =>
    match skipGap text with
    | none => none
    | some (']' :: rest) => some (.list found.reverse, rest)
    | some start =>
      match value start with
      | none => none
      | some (item, rest) =>
        match skipGap rest with
        | some (',' :: later) => listItems value fuel (item :: found) later
        | some (']' :: later) => some (.list (item :: found).reverse, later)
        | _ => none

/-- A key, the sign behind it and its value, with what may be skipped on either side of the sign. -/
def assignment (skip : List Char → Option (List Char)) (value : List Char → Parsed Tree)
    (text : List Char) : Parsed (List String × Tree) :=
  match key text with
  | none => none
  | some (path, rest) =>
    match skip rest with
    | some ('=' :: later) =>
      match (skip later).bind value with
      | some (held, last) => some ((path, held), last)
      | none => none
    | _ => none

/-- The entries of a table up to its closing brace. -/
def tableItems (value : List Char → Parsed Tree) : Nat → Entries → List Char → Parsed Tree
  | 0, _, _ => none
  | fuel + 1, found, text =>
    match skipGap text with
    | none => none
    | some ('\x7d' :: rest) => some (.table (trees found), rest)
    | some start =>
      match assignment skipGap value start with
      | none => none
      | some ((path, held), rest) =>
        match found.assign .separate path held, skipGap rest with
        | some entries, some (',' :: later) => tableItems value fuel entries later
        | some entries, some ('\x7d' :: later) => some (.table (trees entries), later)
        | _, _ => none

/-- A value with at most so many brackets and braces around its innermost part. -/
def valueWithin : Nat → List Char → Parsed Tree
  | depth, text =>
    match string text with
    | some (held, rest) => some (.text held, rest)
    | none =>
      match depth, text with
      | depth + 1, '[' :: rest => listItems (valueWithin depth) (text.length + 1) [] rest
      | depth + 1, '\x7b' :: rest => tableItems (valueWithin depth) (text.length + 1) [] rest
      | _, _ =>
        let (found, rest) := word text
        (ofWord? found).map fun held => (held, rest)

def deepest : Nat := 80

def value (text : List Char) : Parsed Tree := valueWithin deepest text

end SharedRecords.Toml
