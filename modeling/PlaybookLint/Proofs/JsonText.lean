import Mathlib
import PlaybookLint.Json.Printer
import PlaybookLint.Json.Reader

/-!
Texts inside JSON. A text between quotes stands on one line, and whoever reads it gets the text back,
whatever follows.
-/

namespace PlaybookLint.Json

/-! ### Characters -/

/-- A character stands for itself, or in an escape that is read as the character. -/
inductive Stands (c : Char) : List Char → Prop
  | itself (open' : c ≠ '"') (bare : c ≠ '\\') : Stands c [c]
  | escape {body : List Char} (read : ∀ rest, escaped? (body ++ rest) = some (c, rest)) :
      Stands c ('\\' :: body)

example : textLiteral "a\"\né" = "\"a\\\"\\n\\u00e9\"" := by rfl

end PlaybookLint.Json
