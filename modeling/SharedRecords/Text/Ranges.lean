/-!
Sets of characters as ranges of character numbers in ascending order, each with its first and its
last number.
-/

namespace SharedRecords.Text

abbrev Ranges := List (Nat × Nat)

namespace Ranges

def has (ranges : Ranges) (character : Char) : Bool :=
  ranges.any fun (first, last) => first ≤ character.toNat && character.toNat ≤ last

/-- Whether each range ends where it starts or later, and before the next one starts. -/
def ascending : Nat → Ranges → Bool
  | _, [] => true
  | bound, (first, last) :: rest => bound ≤ first && first ≤ last && ascending (last + 1) rest

end Ranges

end SharedRecords.Text
