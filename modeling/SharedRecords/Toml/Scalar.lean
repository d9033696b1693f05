import SharedRecords.Number.Parse
import SharedRecords.Settings.Tree
import SharedRecords.Toml.Lexical

/-!
Values of one word: truth values, whole numbers in four bases, decimal numbers, dates and times.
-/

namespace SharedRecords.Toml

open Settings (Tree)

/-! ## Numbers -/

/-- Digits without the underscores between them; each has a digit on either side. -/
def spaced? (isDigit : Char → Bool) : List Char → Option (List Char)
  | [] => none
  | [digit] => if isDigit digit then some [digit] else none
  | digit :: '_' :: rest =>
    if isDigit digit then (spaced? isDigit rest).map (digit :: ·) else none
  | digit :: rest => if isDigit digit then (spaced? isDigit rest).map (digit :: ·) else none

def isHex (character : Char) : Bool := (hexDigit? character).isSome

def isOctal (character : Char) : Bool := '0' ≤ character && character ≤ '7'

def isBinary (character : Char) : Bool := character == '0' || character == '1'

def ofBase (base : Nat) (digits : List Char) : Nat :=
  digits.foldl (fun value digit => base * value + (hexDigit? digit).getD 0) 0

def isPlainNumber : List Char → Bool
  | '0' :: _ :: _ => false
  | _ => true

def isPlaced (value : Int) : Bool :=
  -0x80000000000000000000000000000000 ≤ value && value < 0x100000000000000000000000000000000

def placed (word : List Char) (value : Int) : Tree :=
  if isPlaced value then .integer value else .unread (String.ofList word)

/-- A number behind the mark of its base. The digits may be left out, but then no number can be read. -/
def based? (base : Nat) (isDigit : Char → Bool) (word digits : List Char) : Option Tree :=
  if digits.isEmpty then some (.unread (String.ofList word))
  else (spaced? isDigit digits).map fun found => placed word (ofBase base found)

/-- Whether every underscore has a digit of any base on either side. -/
def isJoined : List Char → Bool
  | [] => true
  | '_' :: _ => false
  | [_] => true
  | _ :: '_' :: [] => false
  | first :: '_' :: second :: rest => isHex first && isHex second && isJoined (second :: rest)
  | _ :: rest => isJoined rest

/-- What stands behind the leading digits of a whole number: nothing, or an underscore and anything
that makes no decimal number of it. -/
def isWholeTail : List Char → Bool
  | [] => true
  | '_' :: rest => rest.all fun character => character != '.' && character != 'e' && character != 'E'
  | _ => false

/-- A decimal number, of which only the first digits and the underscores decide that it is one. -/
def decimal? (word : List Char) : Option Tree :=
  let (negative, rest) := Number.splitSign word
  if rest.isEmpty || !isPlainNumber rest || !isWholeTail (rest.dropWhile Number.isDigit) || !isJoined rest
  then none
  else
    match spaced? Number.isDigit rest with
    | some digits =>
      let size : Int := ofBase 10 digits
      some (placed word (if negative then -size else size))
    | none => some (.unread (String.ofList word))

def integer? (word : List Char) : Option Tree :=
  match word with
  | '0' :: 'x' :: rest => based? 16 isHex word rest
  | '0' :: 'o' :: rest => based? 8 isOctal word rest
  | '0' :: 'b' :: rest => based? 2 isBinary word rest
  | _ => decimal? word

/-- The fraction and the exponent behind the whole part of a decimal number; one of them is there. -/
def tail? : List Char → Option (List Char × List Char)
  | '.' :: rest =>
    let fraction := rest.takeWhile fun character => Number.isDigit character || character == '_'
    let behind := rest.drop fraction.length
    (spaced? Number.isDigit fraction).map fun digits => ('.' :: digits, behind)
  | rest => some ([], rest)

def power? : List Char → Option (List Char)
  | [] => some []
  | 'e' :: rest | 'E' :: rest =>
    let (negative, digits) := Number.splitSign rest
    (spaced? Number.isDigit digits).map fun found => 'e' :: (if negative then '-' :: found else found)
  | _ => none

/-- A decimal number beyond all doubles stays unread. -/
def float? (word : List Char) : Option Tree :=
  let (negative, rest) := Number.splitSign word
  if rest = ['i', 'n', 'f'] || rest = ['n', 'a', 'n'] then (Number.float? (String.ofList word)).map .float
  else
    let front := rest.takeWhile fun character => Number.isDigit character || character == '_'
    match spaced? Number.isDigit front, tail? (rest.drop front.length) with
    | some whole, some (fraction, behind) =>
      match power? behind with
      | some power =>
        if isPlainNumber whole then
          (Number.decimal? negative (whole ++ fraction ++ power)).map fun value =>
            if value.isFinite then .float value else .unread (String.ofList word)
        else none
      | none => none
    | _, _ => none

/-! ## Dates and times -/

def two : List Char → Parsed Nat
  | first :: second :: rest =>
    if Number.isDigit first && Number.isDigit second then some (Number.ofDigits [first, second], rest)
    else none
  | _ => none

def isLeap (year : Nat) : Bool := year % 4 = 0 && (year % 100 ≠ 0 || year % 400 = 0)

def monthLength (year month : Nat) : Nat :=
  if month = 2 then if isLeap year then 29 else 28
  else if month = 4 || month = 6 || month = 9 || month = 11 then 30
  else 31

/-- A date in its written form. -/
def date (text : List Char) : Parsed (List Char) :=
  let digits := text.take 4
  match text.drop 4 with
  | '-' :: rest =>
    if digits.length = 4 && digits.all Number.isDigit then
      match two rest with
      | some (month, '-' :: later) =>
        match two later with
        | some (day, last) =>
          if 1 ≤ month && month ≤ 12 && 1 ≤ day && day ≤ monthLength (Number.ofDigits digits) month then
            some (text.take 10, last)
          else none
        | none => none
      | _ => none
    else none
  | _ => none

def padded (value : Nat) : List Char := (Nat.toDigits 10 (100 + value)).drop 1

/-- At most nine places of a fraction count, and closing zeros do not, except that one place always
stays. -/
def trimmed (digits : List Char) : List Char :=
  let kept := ((digits.take 9).reverse.dropWhile (· == '0')).reverse
  '.' :: if kept.isEmpty then ['0'] else kept

/-- The seconds of a time and their fraction, as far as they are there. -/
def seconds : List Char → Parsed (List Char)
  | ':' :: rest =>
    match two rest with
    | none => none
    | some (second, later) =>
      if 60 < second then none
      else
        match later with
        | '.' :: more =>
          let digits := more.takeWhile Number.isDigit
          if digits.isEmpty then none
          else some (':' :: padded second ++ trimmed digits, more.dropWhile Number.isDigit)
        | _ => some (':' :: padded second, later)
  | rest => some ([], rest)

/-- A time in its written form; seconds that are left out stay out. -/
def time (text : List Char) : Parsed (List Char) :=
  match two text with
  | some (hour, ':' :: rest) =>
    match two rest with
    | some (minute, later) =>
      if hour ≤ 23 && minute ≤ 59 then
        (seconds later).map fun (written, last) => (padded hour ++ ':' :: padded minute ++ written, last)
      else none
    | none => none
  | _ => none

/-- An offset of nothing is written with a plus. -/
def offsetSign (sign : Char) (hour minute : Nat) : Char := if hour = 0 && minute = 0 then '+' else sign

/-- The offset of a time from that of the prime meridian. -/
def offset? : List Char → Option (List Char)
  | [] => some []
  | ['Z'] | ['z'] => some ['Z']
  | sign :: rest =>
    if sign == '+' || sign == '-' then
      match two rest with
      | some (hour, ':' :: later) =>
        match two later with
        | some (minute, []) =>
          if hour ≤ 23 && minute ≤ 59 then
            some (offsetSign sign hour minute :: padded hour ++ ':' :: padded minute)
          else none
        | _ => none
      | _ => none
    else none

def isSeparator (character : Char) : Bool := character == 'T' || character == 't' || character == ' '

/-- A date, a time, or both with a separator between them. -/
def moment? (word : List Char) : Option String :=
  match date word with
  | some (day, []) => some (String.ofList day)
  | some (day, separator :: rest) =>
    if isSeparator separator then
      match time rest with
      | some (clock, later) =>
        (offset? later).map fun offset => String.ofList (day ++ 'T' :: clock ++ offset)
      | none => none
    else none
  | none =>
    match time word with
    | some (clock, []) => some (String.ofList clock)
    | _ => none

/-! ## Words -/

def stops : List Char := ['=', ',', '[', ']', '\x7b', '\x7d', ' ', '\t', '#', '\r', '\n']

def isWordCharacter (character : Char) : Bool := !stops.contains character

/-- A word; a date takes the time behind a blank with it. -/
def word (text : List Char) : List Char × List Char :=
  let first := text.takeWhile isWordCharacter
  match date first, text.drop first.length with
  | some (_, []), ' ' :: digit :: rest =>
    if Number.isDigit digit then
      let second := (digit :: rest).takeWhile isWordCharacter
      (first ++ ' ' :: second, (digit :: rest).drop second.length)
    else (first, ' ' :: digit :: rest)
  | _, rest => (first, rest)

def ofWord? (word : List Char) : Option Tree :=
  if word = "true".toList then some (.truth true)
  else if word = "false".toList then some (.truth false)
  else
    (integer? word).orElse fun _ => (float? word).orElse fun _ => (moment? word).map .date

end SharedRecords.Toml
