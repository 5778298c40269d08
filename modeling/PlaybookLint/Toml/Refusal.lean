import PlaybookLint.Text.Quoted
import PlaybookLint.Text.DecimalDigit

/-!
Why a text is not a TOML document, and where. A place is a line and a column counted from one, or the
end of the document.
-/

namespace PlaybookLint.Toml

/-- A dotted key. -/
abbrev Key := List String

/-- A key as it stands in messages: its parts between parentheses, a comma after a lone one. -/
def shownKey : Key → String
  | [part] => "(" ++ Text.quoted part ++ ",)"
  | parts => "(" ++ ", ".intercalate (parts.map Text.quoted) ++ ")"

/-- What is wrong at a place of a document. -/
inductive Cause where
  | statement
  | lineEnd
  | keyStart
  | equalsSign
  | tableEnd
  | tableArrayEnd
  | arrayEnd
  | inlineTableEnd
  | declaredTwice (key : Key)
  | redefined (key : Key)
  | immutable (key : Key)
  | overwritten
  | duplicate (name : String)
  | expected (closing : String)
  | invalidCharacter (c : Char)
  | illegalCharacter (c : Char)
  | unterminated
  | badEscape
  | badHex
  | notScalar
  | badDate
  | badValue
deriving Repr, DecidableEq

def Cause.message : Cause → String
  | .statement => "Invalid statement"
  | .lineEnd => "Expected newline or end of document after a statement"
  | .keyStart => "Invalid initial character for a key part"
  | .equalsSign => "Expected '=' after a key in a key/value pair"
  | .tableEnd => "Expected ']' at the end of a table declaration"
  | .tableArrayEnd => "Expected ']]' at the end of an array declaration"
  | .arrayEnd => "Unclosed array"
  | .inlineTableEnd => "Unclosed inline table"
  | .declaredTwice key => s!"Cannot declare {shownKey key} twice"
  | .redefined key => s!"Cannot redefine namespace {shownKey key}"
  | .immutable key => s!"Cannot mutate immutable namespace {shownKey key}"
  | .overwritten => "Cannot overwrite a value"
  | .duplicate name => s!"Duplicate inline table key {Text.quoted name}"
  | .expected closing => s!"Expected {Text.quoted closing}"
  | .invalidCharacter c => s!"Found invalid character {Text.quoted (String.singleton c)}"
  | .illegalCharacter c => s!"Illegal character {Text.quoted (String.singleton c)}"
  | .unterminated => "Unterminated string"
  | .badEscape => "Unescaped '\\' in a string"
  | .badHex => "Invalid hex value"
  | .notScalar => "Escaped character is not a Unicode scalar value"
  | .badDate => "Invalid date or datetime"
  | .badValue => "Invalid value"

/-- A refusal while reading: what is wrong with how much of the text left, a number too long, or
values inside values deeper than calls may nest. -/
inductive Halt where
  | cause (what : Cause) (left : Nat)
  | number (refusal : Text.TooManyDigits)
  | tooDeep
deriving Repr, DecidableEq

/-- Why a text is not a document: what is wrong at a line and a column, or at the end. -/
inductive Refusal where
  | malformed (what : Cause) (place : Option (Nat × Nat))
  | number (refusal : Text.TooManyDigits)
  /-- Values stand inside values deeper than calls may nest. -/
  | tooDeep
deriving Repr, DecidableEq

/-- Line and column of the place with `left` characters after it. -/
def placeOf (source : List Char) (left : Nat) : Option (Nat × Nat) :=
  if left == 0 then none
  else
    let before := source.take (source.length - left)
    some (before.count '\n' + 1, (before.reverse.takeWhile (· != '\n')).length + 1)

def Refusal.message : Refusal → String
  | .malformed what none => s!"{what.message} (at end of document)"
  | .malformed what (some (line, column)) =>
    s!"{what.message} (at line {line}, column {column})"
  | .number refusal => refusal.message
  | .tooDeep => "maximum recursion depth exceeded"

end PlaybookLint.Toml
