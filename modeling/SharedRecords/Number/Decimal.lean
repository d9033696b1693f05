import SharedRecords.Number.Binary

/-!
Doubles as decimal text, without exponents: either with the fewest digits that read back as the
same double, or with a fixed number of places.
-/

namespace SharedRecords.Number

/-- Whether `digits * 10 ^ power` rounds to the double; the ends of the interval belong to it when
the mantissa is even. -/
def readsBack (binary : Binary) (digits : Nat) (power : Int) : Bool :=
  let (scale, parts) := binary.quarters
  let middle := 4 * binary.mantissa
  let below := if binary.mantissa = Binary.hiddenBit && binary.exponent > -1074 then middle - 1 else middle - 2
  let candidate := if 0 ≤ power then digits * Nat.pow 10 power.toNat * parts else digits * parts
  let unit := if 0 ≤ power then scale else scale * Nat.pow 10 (-power).toNat
  let low := below * unit
  let high := (middle + 2) * unit
  if binary.mantissa % 2 = 0 then low ≤ candidate && candidate ≤ high
  else low < candidate && candidate < high

/-- The multiple of `10 ^ power` that is not above the number. -/
def floorAt (binary : Binary) (power : Int) : Nat :=
  let (numerator, denominator) := binary.ratio
  if 0 ≤ power then numerator / (denominator * Nat.pow 10 power.toNat)
  else numerator * Nat.pow 10 (-power).toNat / denominator

/-- Of two multiples that both read back, the nearer one. -/
def nearer (binary : Binary) (below : Nat) (power : Int) : Nat :=
  let (numerator, denominator) := binary.ratio
  let (twice, point) :=
    if 0 ≤ power then (2 * numerator, (2 * below + 1) * denominator * Nat.pow 10 power.toNat)
    else (2 * numerator * Nat.pow 10 (-power).toNat, (2 * below + 1) * denominator)
  if point < twice then below + 1
  else if twice < point then below
  else if below % 2 = 0 then below
  else below + 1

def gridPoint? (binary : Binary) (power : Int) : Option Nat :=
  let below := floorAt binary power
  match readsBack binary below power && 0 < below, readsBack binary (below + 1) power with
  | true, true => some (nearer binary below power)
  | true, false => some below
  | false, true => some (below + 1)
  | false, false => none

/-- The first grid, from coarse to fine, with a point that reads back. -/
def shortestFrom (binary : Binary) : Nat → Int → Nat × Int
  | 0, power => (floorAt binary power, power)
  | steps + 1, power =>
    match gridPoint? binary power with
    | some digits => (digits, power)
    | none => shortestFrom binary steps (power - 1)

def coarsest (binary : Binary) : Int :=
  let (numerator, denominator) := binary.ratio
  let whole := numerator / denominator
  if 0 < whole then (Nat.toDigits 10 whole).length
  else 1 - ((Nat.toDigits 10 (denominator / numerator)).length : Int)

/-- The fewest digits and their power of ten; seventeen digits always suffice. -/
def shortest (binary : Binary) : Nat × Int := shortestFrom binary 20 (coarsest binary)

def pointed (places digits : Nat) : String :=
  let written := Nat.toDigits 10 digits
  let padded := List.replicate (places + 1 - written.length) '0' ++ written
  let cut := padded.length - places
  if places = 0 then String.ofList padded
  else String.ofList (padded.take cut) ++ "." ++ String.ofList (padded.drop cut)

def positional (digits : Nat) (power : Int) : String :=
  if 0 ≤ power then toString (digits * Nat.pow 10 power.toNat) else pointed (-power).toNat digits

def sign (negative : Bool) : String := if negative then "-" else ""

/-- The fewest digits that read back. -/
def text (value : Float) : String :=
  match read value with
  | .notANumber => "NaN"
  | .infinite negative => sign negative ++ "inf"
  | .finite negative size =>
    if size.isZero then sign negative ++ "0"
    else
      let (digits, power) := shortest size
      sign negative ++ positional digits power

def fixed (places : Nat) (value : Float) : String :=
  match read value with
  | .notANumber => "NaN"
  | .infinite negative => sign negative ++ "inf"
  | .finite negative size =>
    let (numerator, denominator) := size.ratio
    sign negative ++ pointed places (nearest (numerator * Nat.pow 10 places) denominator)

end SharedRecords.Number
