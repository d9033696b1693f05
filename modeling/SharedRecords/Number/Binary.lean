/-!
Doubles as exact numbers. A finite double is a whole number times a power of two, and so are the
ends of the interval of numbers that round to it.
-/

namespace SharedRecords.Number

/-- The size of a finite double: `mantissa * 2 ^ exponent`. -/
structure Binary where
  mantissa : Nat
  exponent : Int
  deriving DecidableEq, Repr, Inhabited

/-- What the bits of a double stand for. -/
inductive Reading where
  | finite (negative : Bool) (size : Binary)
  | infinite (negative : Bool)
  | notANumber
  deriving DecidableEq, Repr

namespace Binary

/-- The first bit of a mantissa that is not written down. -/
def hiddenBit : Nat := 0x10000000000000

def ofFields (exponent fraction : Nat) : Binary :=
  if exponent = 0 then ⟨fraction, -1074⟩ else ⟨hiddenBit + fraction, (exponent : Int) - 1075⟩

def isZero (binary : Binary) : Bool := binary.mantissa == 0

/-- The number over `4` as a quotient of whole numbers: units of a quarter of the last place. -/
def quarters (binary : Binary) : Nat × Nat :=
  let scale := binary.exponent - 2
  if 0 ≤ scale then (Nat.pow 2 scale.toNat, 1) else (1, Nat.pow 2 (-scale).toNat)

/-- The quotient of whole numbers that the size is. -/
def ratio (binary : Binary) : Nat × Nat :=
  if 0 ≤ binary.exponent then (binary.mantissa * Nat.pow 2 binary.exponent.toNat, 1)
  else (binary.mantissa, Nat.pow 2 (-binary.exponent).toNat)

end Binary

def read (value : Float) : Reading :=
  let bits := value.toBits.toNat
  let negative := 0x8000000000000000 ≤ bits
  let exponent := bits / Binary.hiddenBit % 0x800
  let fraction := bits % Binary.hiddenBit
  if exponent = 2047 then if fraction = 0 then .infinite negative else .notANumber
  else .finite negative (.ofFields exponent fraction)

/-- The whole number next to a quotient; of two equally near, the even one. -/
def nearest (numerator denominator : Nat) : Nat :=
  let below := numerator / denominator
  let rest := 2 * (numerator % denominator)
  if rest < denominator then below
  else if denominator < rest then below + 1
  else if below % 2 = 0 then below
  else below + 1

example : nearest 5 2 = 2 := by decide
example : nearest 7 2 = 4 := by decide
example : nearest 8 3 = 3 := by decide

end SharedRecords.Number
