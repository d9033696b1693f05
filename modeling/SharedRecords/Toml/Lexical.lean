/-!
The smallest parts of a TOML document: blanks, line ends, comments, keys and strings. A parser
takes characters and answers with what it found and the characters behind it.
-/

namespace SharedRecords.Toml

abbrev Parsed (α : Type) := Option (α × List Char)

/-- Control characters other than the tab have no place in a document. -/
def isForbidden (character : Char) : Bool :=
  (character.toNat < 0x20 && character != '\t') || character.toNat = 0x7f

def isBlank (character : Char) : Bool := character == ' ' || character == '\t'

def skipBlanks (text : List Char) : List Char := text.dropWhile isBlank

def lineEnd? : List Char → Option (List Char)
  | '\n' :: rest => some rest
  | '\r' :: '\n' :: rest => some rest
  | _ => none

/-- What stands behind the text of a comment: a line end or nothing. -/
def skipComment : List Char → Option (List Char)
  | [] => some []
  | '\n' :: rest => some ('\n' :: rest)
  | '\r' :: '\n' :: rest => some ('\r' :: '\n' :: rest)
  | character :: rest => if isForbidden character then none else skipComment rest

/-- Skips blanks, line ends and comments, from inside a comment or from outside. -/
def skipVoid : Bool → List Char → Option (List Char)
  | _, [] => some []
  | _, '\n' :: rest => skipVoid false rest
  | _, '\r' :: '\n' :: rest => skipVoid false rest
  | true, character :: rest => if isForbidden character then none else skipVoid true rest
  | false, character :: rest =>
    if character == '#' then skipVoid true rest
    else if isBlank character then skipVoid false rest
    else some (character :: rest)

/-- Skips what may stand between statements, and between the parts of a list or table. -/
def skipGap (text : List Char) : Option (List Char) := skipVoid false text

/-! ## Strings -/

def hexDigit? (digit : Char) : Option Nat :=
  if '0' ≤ digit && digit ≤ '9' then some (digit.toNat - '0'.toNat)
  else if 'a' ≤ digit && digit ≤ 'f' then some (digit.toNat - 'a'.toNat + 10)
  else if 'A' ≤ digit && digit ≤ 'F' then some (digit.toNat - 'A'.toNat + 10)
  else none

def hexNumber : Nat → Nat → List Char → Parsed Nat
  | 0, value, rest => some (value, rest)
  | _ + 1, _, [] => none
  | count + 1, value, digit :: rest =>
    match hexDigit? digit with
    | some found => hexNumber count (16 * value + found) rest
    | none => none

def numbered (count : Nat) (text : List Char) : Parsed Char :=
  match hexNumber count 0 text with
  | none => none
  | some (value, rest) =>
    if valid : value.isValidChar then some (Char.ofNatAux value valid, rest) else none

/-- The character that stands behind a backslash. -/
def escape : List Char → Parsed Char
  | 'b' :: rest => some ('\x08', rest)
  | 't' :: rest => some ('\t', rest)
  | 'n' :: rest => some ('\n', rest)
  | 'f' :: rest => some ('\x0c', rest)
  | 'r' :: rest => some ('\r', rest)
  | 'e' :: rest => some ('\x1b', rest)
  | '"' :: rest => some ('"', rest)
  | '\\' :: rest => some ('\\', rest)
  | 'x' :: rest => numbered 2 rest
  | 'u' :: rest => numbered 4 rest
  | 'U' :: rest => numbered 8 rest
  | _ => none

/-- The rest of a string between quotes, read in reverse. -/
def basic : Nat → List Char → List Char → Parsed String
  | 0, _, _ => none
  | fuel + 1, found, text =>
    match text with
    | '"' :: rest => some (String.ofList found.reverse, rest)
    | '\\' :: rest =>
      match escape rest with
      | some (character, later) => basic fuel (character :: found) later
      | none => none
    | character :: rest => if isForbidden character then none else basic fuel (character :: found) rest
    | [] => none

/-- The rest of a string between apostrophes, where nothing is escaped. -/
def plain : List Char → List Char → Parsed String
  | found, '\'' :: rest => some (String.ofList found.reverse, rest)
  | found, character :: rest => if isForbidden character then none else plain (character :: found) rest
  | _, [] => none

def closing (quote : Char) (found : List Char) (rest : List Char) : Parsed String :=
  let extra := (rest.takeWhile (· == quote)).take 2
  some (String.ofList (found.reverse ++ extra), rest.drop extra.length)

def skipLines : List Char → List Char
  | '\r' :: '\n' :: rest => skipLines rest
  | '\n' :: rest => skipLines rest
  | character :: rest => if isBlank character then skipLines rest else character :: rest
  | [] => []

def continued (rest : List Char) : Option (List Char) := (lineEnd? (skipBlanks rest)).map skipLines

/-- The rest of a string of several lines, which keeps its line ends as they are. -/
def basicLines : Nat → List Char → List Char → Parsed String
  | 0, _, _ => none
  | fuel + 1, found, text =>
    match text with
    | '"' :: '"' :: '"' :: rest => closing '"' found rest
    | '\\' :: rest =>
      match continued rest with
      | some later => basicLines fuel found later
      | none =>
        match escape rest with
        | some (character, later) => basicLines fuel (character :: found) later
        | none => none
    | '\r' :: '\n' :: rest => basicLines fuel ('\n' :: '\r' :: found) rest
    | '\n' :: rest => basicLines fuel ('\n' :: found) rest
    | character :: rest =>
      if isForbidden character then none else basicLines fuel (character :: found) rest
    | [] => none

def plainLines : List Char → List Char → Parsed String
  | found, '\'' :: '\'' :: '\'' :: rest => closing '\'' found rest
  | found, '\r' :: '\n' :: rest => plainLines ('\n' :: '\r' :: found) rest
  | found, '\n' :: rest => plainLines ('\n' :: found) rest
  | found, character :: rest =>
    if isForbidden character then none else plainLines (character :: found) rest
  | _, [] => none

/-- A line end right behind the opening quotes is no part of the string. -/
def afterOpening (text : List Char) : List Char := (lineEnd? text).getD text

def string (text : List Char) : Parsed String :=
  match text with
  | '"' :: '"' :: '"' :: rest => basicLines (text.length + 1) [] (afterOpening rest)
  | '\'' :: '\'' :: '\'' :: rest => plainLines [] (afterOpening rest)
  | '"' :: rest => basic (text.length + 1) [] rest
  | '\'' :: rest => plain [] rest
  | _ => none

/-! ## Keys -/

def isBare (character : Char) : Bool :=
  character.isAlphanum || character == '_' || character == '-'

/-- One name of a key. -/
def name (text : List Char) : Parsed String :=
  match text with
  | '"' :: rest => basic (text.length + 1) [] rest
  | '\'' :: rest => plain [] rest
  | _ =>
    match text.takeWhile isBare with
    | [] => none
    | found => some (String.ofList found, text.dropWhile isBare)

/-- Names with dots between them. -/
def keyFrom : Nat → List Char → Parsed (List String)
  | 0, _ => none
  | fuel + 1, text =>
    match name (skipBlanks text) with
    | none => none
    | some (first, rest) =>
      match skipBlanks rest with
      | '.' :: later => (keyFrom fuel later).map fun (others, last) => (first :: others, last)
      | later => some ([first], later)

def longestKey : Nat := 80

def key (text : List Char) : Parsed (List String) :=
  (keyFrom (text.length + 1) text).filter fun (path, _) => path.length ≤ longestKey

end SharedRecords.Toml
