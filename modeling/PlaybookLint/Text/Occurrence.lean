/-!
Texts inside texts.
-/

namespace PlaybookLint.Text

/-- Does `part` occur in the text? -/
def occurs (part : List Char) : List Char → Bool
  | [] => part.isEmpty
  | c :: rest => part.isPrefixOf (c :: rest) || occurs part rest

end PlaybookLint.Text
