/-!
Numbers from text: whole numbers with an optional sign, and decimal numbers with an optional
fraction and exponent.
-/

namespace SharedRecords.Number

def isDigit (character : Char) : Bool := '0' ≤ character && character ≤ '9'

def ofDigits (digits : List Char) : Nat :=
  digits.foldl (fun value digit => 10 * value + (digit.toNat - '0'.toNat)) 0

def natural? (text : List Char) : Option Nat :=
  if text.isEmpty || !text.all isDigit then none else some (ofDigits text)

/-- Whether a minus sign opens the text, and what follows the sign, if there is one. -/
def splitSign : List Char → Bool × List Char
  | '-' :: rest => (true, rest)
  | '+' :: rest => (false, rest)
  | rest => (false, rest)

def unsigned? (text : String) : Option Nat :=
  match text.toList with
  | '+' :: rest => natural? rest
  | rest => natural? rest

def whole? (text : String) : Option Int :=
  let (negative, digits) := splitSign text.toList
  (natural? digits).map fun value => if negative then -(value : Int) else value

def scaled (negative : Bool) (digits : Nat) (power : Int) : Float :=
  let size :=
    if power < -20000 then 0.0
    else if power > 20000 && digits != 0 then 1.0 / 0.0
    else Float.ofScientific digits (power < 0) power.natAbs
  if negative then -size else size

/-- The exponent behind its letter; none at all is zero. -/
def exponent? : List Char → Option Int
  | [] => some 0
  | 'e' :: rest | 'E' :: rest =>
    let (negative, digits) := splitSign rest
    (natural? digits).map fun value => if negative then -(value : Int) else value
  | _ => none

/-- The size of a decimal number: digits, a point among them, an exponent. One digit is enough. -/
def decimal? (negative : Bool) (text : List Char) : Option Float :=
  let whole := text.takeWhile isDigit
  let behind := text.dropWhile isDigit
  let (fraction, rest) := match behind with
    | '.' :: later => (later.takeWhile isDigit, later.dropWhile isDigit)
    | later => ([], later)
  if whole.isEmpty && fraction.isEmpty then none
  else
    (exponent? rest).map fun power =>
      scaled negative (ofDigits (whole ++ fraction)) (power - fraction.length)

/-- Reads the names of infinity and of what is no number as well, in any case. -/
def float? (text : String) : Option Float :=
  let (negative, rest) := splitSign text.toList
  let word := String.ofList (rest.map Char.toLower)
  if word = "inf" || word = "infinity" then some (if negative then -(1.0 / 0.0) else 1.0 / 0.0)
  else if word = "nan" then some (0.0 / 0.0)
  else decimal? negative rest

end SharedRecords.Number
