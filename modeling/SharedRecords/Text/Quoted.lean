import SharedRecords.Text.Hex
import SharedRecords.Text.Unseen

/-!
Text between double quotes, in two conventions: the one of JSON, and the one in which values are
described to people, where every character that would not show is spelled by its number.
-/

namespace SharedRecords.Text

def hexNumber (value : Nat) : String := String.ofList (Nat.toDigits 16 value)

def jsonChar (character : Char) : String :=
  match character with
  | '"' => "\\\""
  | '\\' => "\\\\"
  | '\n' => "\\n"
  | '\r' => "\\r"
  | '\t' => "\\t"
  | _ =>
    if character.toNat = 8 then "\\b"
    else if character.toNat = 12 then "\\f"
    else if character.toNat < 0x20 then "\\u00" ++ hexByte (UInt8.ofNat character.toNat)
    else character.toString

/-- JSON spells the quote, the backslash and the control characters, and nothing else. -/
def jsonQuoted (text : String) : String := "\"" ++ String.join (text.toList.map jsonChar) ++ "\""

def shownChar (character : Char) : String :=
  match character with
  | '"' => "\\\""
  | '\\' => "\\\\"
  | '\n' => "\\n"
  | '\r' => "\\r"
  | '\t' => "\\t"
  | '\x00' => "\\0"
  | _ =>
    if isUnseen character then "\\u\x7b" ++ hexNumber character.toNat ++ "\x7d"
    else character.toString

def quoted (text : String) : String := "\"" ++ String.join (text.toList.map shownChar) ++ "\""

end SharedRecords.Text
