import PlaybookLint.Toml.Value

/-!
TOML documents. A document is read statement by statement: blank lines, entries, and headers that
name the table to which the entries below them belong. A table is declared once, an entry is given
once, and arrays and inline tables are complete where they stand.
-/

namespace PlaybookLint.Toml

/-- A document while it is read: its entries, what is known of its keys, the keys that count as
declared from the next header on, and the key of the last header. -/
structure Draft where
  entries : Entries
  marks : Marks
  pending : List Key
  header : Key

namespace Draft

def empty : Draft := ⟨[], .none, [], []⟩

/-- The draft where a header begins. -/
def settle (d : Draft) : Draft :=
  { d with marks := d.pending.foldl Marks.declare d.marks, pending := [] }

end Draft

namespace Scan

/-- Reads a table header and opens its table. -/
def tableHeader (d : Draft) : Scan Draft := do
  drop 1
  skip isSpace
  let key ← key
  if d.marks.isDeclared key || d.marks.isClosed key then refuse (.declaredTwice key)
  match within true .ok key d.entries with
  | .error _ => refuse .overwritten
  | .ok entries =>
    if (← peek) != some ']' then refuse .tableEnd
    drop 1
    return { d with entries := entries, marks := d.marks.declare key, header := key }

/-- Reads a header of a list of tables and adds a table to the list. -/
def tableArrayHeader (d : Draft) : Scan Draft := do
  drop 2
  skip isSpace
  let key ← key
  if d.marks.isClosed key then refuse (.immutable key)
  match within true (appendTable (key.getLast?.getD "")) key.dropLast d.entries with
  | .error _ => refuse .overwritten
  | .ok entries =>
    if !(← startsWith "]]") then refuse .tableArrayEnd
    drop 2
    return { d with entries := entries, marks := (d.marks.forget key).declare key, header := key }

/-- The keys of the tables that a dotted key passes through, as seen from the document. -/
def passedThrough (header key : Key) : List Key :=
  (List.range (key.length - 1)).map fun i => header ++ key.take (i + 1)

/-- Reads an entry and puts it into the table of the last header. -/
def entry (room : Nat) (d : Draft) : Scan Draft := do
  let fuel := (← get).length + 1
  let (key, item) ← deeper room fun room => deeper room fun room => pair fuel room
  let passed := passedThrough d.header key
  match passed.find? d.marks.isDeclared with
  | some earlier => refuse (.redefined earlier)
  | none => pure ()
  let parent := d.header ++ key.dropLast
  if d.marks.isClosed parent then refuse (.immutable parent)
  let name := key.getLast?.getD ""
  let add (inner : Entries) : Except Obstacle Entries :=
    if inner.has name then .error .notATable else .ok (inner.put name item)
  match within true add parent d.entries with
  | .error _ => refuse .overwritten
  | .ok entries =>
    let marks := if isClosed item then d.marks.close (d.header ++ key) else d.marks
    return { d with entries := entries, marks := marks, pending := d.pending ++ passed }

/-- Reads the part of a statement before its comment. -/
def statement (room : Nat) (d : Draft) : Scan Draft := do
  match ← get with
  | '[' :: '[' :: _ => tableArrayHeader d.settle
  | '[' :: _ => tableHeader d.settle
  | c :: _ =>
    if isBareKeyChar c || c == '"' || c == '\'' then entry room d
    else if c == '#' then return d
    else refuse .statement
  | [] => return d

/-- Reads statements to the end of the document. -/
def statements (room : Nat) : Nat → Draft → Scan Draft
  | 0, d => return d
  | fuel + 1, d => do
    skip isSpace
    match ← peek with
    | none => return d
    | some '\n' =>
      drop 1
      statements room fuel d
    | some _ =>
      let d ← statement room d
      skip isSpace
      skipComment
      match ← peek with
      | none => return d
      | some '\n' =>
        drop 1
        statements room fuel d
      | some _ => refuse .lineEnd

end Scan

/-- Turns each carriage return before a line feed into nothing. -/
def joinLineEnds : List Char → List Char
  | [] => []
  | '\r' :: '\n' :: rest => '\n' :: joinLineEnds rest
  | c :: rest => c :: joinLineEnds rest

/-- Reads a document; `room` tells how deep calls may nest meanwhile. -/
def read (room : Nat) (text : String) : Except Refusal Entries :=
  let source := joinLineEnds text.toList
  match (Scan.statements room (source.length + 1) .empty).run source with
  | .ok (d, _) => .ok d.entries
  | .error (.cause what left) => .error (.malformed what (placeOf source left))
  | .error (.number refusal) => .error (.number refusal)
  | .error .tooDeep => .error .tooDeep

end PlaybookLint.Toml
