/-!
Lines of a text. A line ends with a line feed or with a carriage return and a line feed; a carriage
return elsewhere belongs to its line. A text has one more line than it has line ends.
-/

namespace PlaybookLint.Text

/-- Puts a character in front of the first line. -/
def prependToFirst (c : Char) : List (List Char) → List (List Char)
  | [] => [[c]]
  | line :: rest => (c :: line) :: rest

/-- The lines of a text, without their ends. -/
def splitLines : List Char → List (List Char)
  | [] => [[]]
  | '\n' :: rest => [] :: splitLines rest
  | '\r' :: '\n' :: rest => [] :: splitLines rest
  | c :: rest => prependToFirst c (splitLines rest)

/-- The lines of a text, without their ends. -/
def lines (s : String) : List String := (splitLines s.toList).map String.ofList

/-- Turns every carriage return, alone or before a line feed, into a line feed. -/
def unifyLineEnds : List Char → List Char
  | [] => []
  | '\r' :: '\n' :: rest => '\n' :: unifyLineEnds rest
  | '\r' :: rest => '\n' :: unifyLineEnds rest
  | c :: rest => c :: unifyLineEnds rest

end PlaybookLint.Text
