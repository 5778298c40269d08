import PlaybookLint.Toml.Text
import PlaybookLint.Toml.Number
import PlaybookLint.Toml.Tables

/-!
Values of a document: texts, flags, arrays, inline tables, dates, times and numbers. Every value
takes at least one character, so the fuel, which the length of the text bounds, never runs out; what
may run out, for values inside values, is the room for nested calls.
-/

namespace PlaybookLint.Toml.Scan

/-- Puts a value into an inline table; `marks` tells which of its keys are closed. -/
def putInline (key : Key) (value : Datum) (entries : Entries) (marks : Marks) : Scan Entries := do
  if marks.isClosed key then refuse (.immutable key)
  let name := key.getLast?.getD ""
  match within false .ok key.dropLast entries with
  | .error _ => refuse .overwritten
  | .ok opened =>
    let duplicate (inner : Entries) : Bool := inner.has name
    match within false (fun inner => if duplicate inner then .error .notATable
        else .ok (inner.put name value)) key.dropLast opened with
    | .ok done => return done
    | .error _ => refuse (.duplicate name)

mutual

/-- Reads a value. -/
def value : Nat → Nat → Scan Datum
  | 0, _ => refuse .badValue
  | fuel + 1, room => do
    match ← get with
    | '"' :: rest =>
      if ['"', '"'].isPrefixOf rest then return .text (← linesText) else return .text (← lineText)
    | '\'' :: rest =>
      if ['\'', '\''].isPrefixOf rest then return .text (← literalLines)
      else return .text (← literalText)
    | '[' :: _ =>
      deeper room fun room => do
        drop 1
        filler
        if (← peek) == some ']' then
          drop 1
          return .list []
        else return .list (← items fuel room [])
    | '\x7b' :: _ =>
      deeper room fun room => do
        drop 1
        skip isSpace
        if (← peek) == some '\x7d' then
          drop 1
          return .table []
        else return .table (← inlineEntries fuel room [] .none)
    | _ =>
      if ← startsWith "true" then
        drop 4
        return .flag true
      else if ← startsWith "false" then
        drop 5
        return .flag false
      else scalar
termination_by structural fuel => fuel

/-- Reads the items of an array up to its closing bracket; `read` holds the earlier ones in reverse
order. -/
def items : Nat → Nat → List Datum → Scan (List Datum)
  | 0, _, _ => refuse .arrayEnd
  | fuel + 1, room, read => do
    let item ← deeper room fun room => value fuel room
    filler
    match ← peek with
    | some ']' =>
      drop 1
      return (item :: read).reverse
    | some ',' =>
      drop 1
      filler
      if (← peek) == some ']' then
        drop 1
        return (item :: read).reverse
      else items fuel room (item :: read)
    | _ => refuse .arrayEnd
termination_by structural fuel => fuel

/-- Reads a key, an equals sign and a value. -/
def pair : Nat → Nat → Scan (Key × Datum)
  | 0, _ => refuse .badValue
  | fuel + 1, room => do
    let key ← key
    if (← peek) != some '=' then refuse .equalsSign
    drop 1
    skip isSpace
    return (key, ← deeper room fun room => value fuel room)
termination_by structural fuel => fuel

/-- Reads the entries of an inline table up to its closing brace. -/
def inlineEntries : Nat → Nat → Entries → Marks → Scan Entries
  | 0, _, _, _ => refuse .inlineTableEnd
  | fuel + 1, room, entries, marks => do
    let (key, item) ← deeper room fun room => pair fuel room
    let entries ← putInline key item entries marks
    skip isSpace
    match ← peek with
    | some '\x7d' =>
      drop 1
      return entries
    | some ',' =>
      drop 1
      skip isSpace
      inlineEntries fuel room entries (if isClosed item then marks.close key else marks)
    | _ => refuse .inlineTableEnd
termination_by structural fuel => fuel

end

end PlaybookLint.Toml.Scan
