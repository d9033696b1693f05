/-!
Text as lines. A line ends with a line feed, and a carriage return in front of that belongs to the
line end.
-/

namespace SharedRecords.Text

def splitLines : List Char → List (List Char)
  | [] => [[]]
  | '\r' :: '\n' :: rest => [] :: splitLines rest
  | '\n' :: rest => [] :: splitLines rest
  | character :: rest =>
    match splitLines rest with
    | [] => [[character]]
    | first :: others => (character :: first) :: others

def lines (text : String) : List String := (splitLines text.toList).map String.ofList

example : lines "a\r\nb\rc\n" = ["a", "b\rc", ""] := by decide +kernel

end SharedRecords.Text
