/-!
Bytes as lower-case hexadecimal text, two digits a byte.
-/

namespace SharedRecords.Text

def hexDigit (value : Nat) : Char := Nat.digitChar (value % 16)

def hexByte (byte : UInt8) : String :=
  String.ofList [hexDigit (byte.toNat / 16), hexDigit byte.toNat]

/-- The spelling of a byte in messages, as in a flag byte that names nothing. -/
def prefixedByte (byte : UInt8) : String := "0x" ++ hexByte byte

def hexBytes (bytes : List UInt8) : String :=
  String.ofList (bytes.flatMap fun byte => [hexDigit (byte.toNat / 16), hexDigit byte.toNat])

def hexValue? (digit : Char) : Option Nat :=
  if '0' ≤ digit && digit ≤ '9' then some (digit.toNat - '0'.toNat)
  else if 'a' ≤ digit && digit ≤ 'f' then some (digit.toNat - 'a'.toNat + 10)
  else if 'A' ≤ digit && digit ≤ 'F' then some (digit.toNat - 'A'.toNat + 10)
  else none

/-- The bytes a run of digit pairs spells; an odd or foreign digit spells nothing. -/
def bytesOfHex? : List Char → Option (List UInt8)
  | [] => some []
  | high :: low :: rest => do
    let upper ← hexValue? high
    let lower ← hexValue? low
    let bytes ← bytesOfHex? rest
    pure (UInt8.ofNat (16 * upper + lower) :: bytes)
  | [_] => none

end SharedRecords.Text
