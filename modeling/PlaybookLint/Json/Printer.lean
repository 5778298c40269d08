import PlaybookLint.Datum
import PlaybookLint.Text.Quoted
import PlaybookLint.Text.Utf8

/-!
JSON text of a value on one line: a blank after each comma and colon, and every character beyond
ASCII escaped by its UTF-16 units.
-/

namespace PlaybookLint.Json

/-- The escape of one UTF-16 unit. -/
def unitEscape (n : Nat) : List Char := '\\' :: 'u' :: Text.hexDigits 4 n

/-- How a character stands inside a JSON text. -/
def escapedChar (c : Char) : List Char :=
  let n := c.toNat
  if c == '"' then ['\\', '"']
  else if c == '\\' then ['\\', '\\']
  else if c == '\n' then ['\\', 'n']
  else if c == '\r' then ['\\', 'r']
  else if c == '\t' then ['\\', 't']
  else if n == 8 then ['\\', 'b']
  else if n == 12 then ['\\', 'f']
  else if 0x20 ≤ n && n < 0x7f then [c]
  else if n < 0x10000 then unitEscape n
  else unitEscape (0xd800 + (n - 0x10000) / 0x400) ++ unitEscape (0xdc00 + (n - 0x10000) % 0x400)

/-- A text between quotes. -/
def textLiteral (s : String) : String :=
  String.ofList ('"' :: s.toList.flatMap escapedChar ++ ['"'])

mutual

/-- The JSON text of a value. What JSON has no form for is written as a text or as a list. -/
def print : Datum → String
  | .null => "null"
  | .flag b => if b then "true" else "false"
  | .integer i => toString i
  | .decimal x => x.shortest
  | .text s => textLiteral s
  | .octets bytes => textLiteral (Text.Utf8.decodeReplacing bytes)
  | .list items | .tuple items | .set _ items => "[" ++ printItems items ++ "]"
  | .table entries => "\x7b" ++ printEntries entries ++ "\x7d"
  | .date d => textLiteral d.text
  | .time t => textLiteral t.text
  | .moment m => textLiteral (m.textWith "T")

def printItems : List Datum → String
  | [] => ""
  | [item] => print item
  | item :: rest => print item ++ ", " ++ printItems rest

def printEntries : List (String × Datum) → String
  | [] => ""
  | [(key, value)] => textLiteral key ++ ": " ++ print value
  | (key, value) :: rest => textLiteral key ++ ": " ++ print value ++ ", " ++ printEntries rest

end

end PlaybookLint.Json
