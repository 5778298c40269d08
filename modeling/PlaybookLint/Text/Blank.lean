/-!
Blank characters and trimming. Blank means white space of every script, including the four
information separators U+001C to U+001F, the next-line control and the no-break space.
-/

namespace PlaybookLint.Text

/-- White space of every script. -/
def isBlank (c : Char) : Bool :=
  let n := c.toNat
  (9 ≤ n && n ≤ 13) || (28 ≤ n && n ≤ 32) || n == 0x85 || n == 0xa0 || n == 0x1680
    || (0x2000 ≤ n && n ≤ 0x200a) || n == 0x2028 || n == 0x2029 || n == 0x202f || n == 0x205f
    || n == 0x3000

/-- Drops the blanks at the start. -/
def trimStart (s : List Char) : List Char := s.dropWhile isBlank

/-- Drops the blanks at the end. -/
def trimEnd (s : List Char) : List Char := (s.reverse.dropWhile isBlank).reverse

/-- The text without the blanks at either end. -/
def trim (s : String) : String := String.ofList (trimEnd (trimStart s.toList))

/-- The text without the blanks at its end. -/
def trimRight (s : String) : String := String.ofList (trimEnd s.toList)

/-- Is every character blank? The empty text is. -/
def isAllBlank (s : String) : Bool := s.toList.all isBlank

end PlaybookLint.Text
