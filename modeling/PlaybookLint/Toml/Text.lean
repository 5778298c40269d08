import PlaybookLint.Toml.Scan

/-!
Texts and keys of a document. Texts between double quotes have escapes, those between single quotes
have none; three quotes begin a text of several lines.
-/

namespace PlaybookLint.Toml

/-- The character of a short escape. -/
def shortEscape? : Char → Option Char
  | 'b' => some '\x08'
  | 't' => some '\t'
  | 'n' => some '\n'
  | 'f' => some '\x0c'
  | 'r' => some '\r'
  | '"' => some '"'
  | '\\' => some '\\'
  | _ => none

def hexDigitValue? (c : Char) : Option Nat :=
  if c.isDigit then some (c.toNat - '0'.toNat)
  else if 'a' ≤ c && c ≤ 'f' then some (c.toNat - 'a'.toNat + 10)
  else if 'A' ≤ c && c ≤ 'F' then some (c.toNat - 'A'.toNat + 10)
  else none

/-- A character of a key that needs no quotes. -/
def isBareKeyChar (c : Char) : Bool := c.isAlphanum || c == '-' || c == '_'

namespace Scan

/-- Reads a code point of a fixed number of hexadecimal digits. -/
def hexCharacter (count : Nat) : Scan (List Char) := do
  let digits := (← get).take count
  match digits.mapM hexDigitValue? with
  | none => refuse .badHex
  | some values =>
    if digits.length != count then refuse .badHex
    drop count
    let code := values.foldl (fun total value => total * 16 + value) 0
    if code < 0xd800 || (0xe000 ≤ code && code ≤ 0x10ffff) then return [Char.ofNat code]
    else refuse .notScalar

/-- Passes over the end of a line that a backslash joins to the next, the backslash and the
character `first` after it having been taken. -/
def joinLines (first : Char) : Scan (List Char) := do
  if first != '\n' then
    skip isSpace
    match ← peek with
    | none => return []
    | some '\n' => drop 1
    | some _ => refuse .badEscape
  skip isSpaceOrLineFeed
  return []

/-- Reads an escape from its backslash on. -/
def escape (inLines : Bool) : Scan (List Char) := do
  let second := (← get)[1]?
  drop 2
  match second with
  | none => refuse .badEscape
  | some c =>
    if inLines && isSpaceOrLineFeed c then joinLines c
    else if c == 'u' then hexCharacter 4
    else if c == 'U' then hexCharacter 8
    else
      match shortEscape? c with
      | some d => return [d]
      | none => refuse .badEscape

/-- Reads the rest of a text between double quotes and passes over its end; `taken` holds what has
been read in reverse order. -/
def escapedText (inLines : Bool) : Nat → List Char → Scan (List Char)
  | 0, taken => return taken.reverse
  | fuel + 1, taken => do
    match ← get with
    | [] => refuse .unterminated
    | c :: rest =>
      if c == '"' && (!inLines || ['"', '"'].isPrefixOf rest) then
        drop (if inLines then 3 else 1)
        return taken.reverse
      else if c == '\\' then
        let more ← escape inLines
        escapedText inLines fuel (more.reverse ++ taken)
      else if (if inLines then isControlInLines c else isControl c) then
        refuse (.illegalCharacter c)
      else
        drop 1
        escapedText inLines fuel (c :: taken)

/-- Takes at most two further quotes, which belong to the text before them. -/
def extraQuotes (quote : Char) : Scan (List Char) := do
  let extra := ((← get).take 2).takeWhile (· == quote)
  drop extra.length
  return extra

/-- Reads a text of one line between double quotes. -/
def lineText : Scan String := do
  drop 1
  return String.ofList (← escapedText false ((← get).length + 1) [])

/-- Reads a text of one line between single quotes. -/
def literalText : Scan String := do
  drop 1
  return String.ofList (← takeUntil "'" isControl)

/-- Passes over three quotes and a line feed right after them. -/
def openLines : Scan Unit := do
  drop 3
  if (← peek) == some '\n' then drop 1

/-- Reads a text of several lines between double quotes. -/
def linesText : Scan String := do
  openLines
  let body ← escapedText true ((← get).length + 1) []
  return String.ofList (body ++ (← extraQuotes '"'))

/-- Reads a text of several lines between single quotes. -/
def literalLines : Scan String := do
  openLines
  let body ← takeUntil "'''" isControlInLines
  return String.ofList (body ++ (← extraQuotes '\''))

/-- Reads one part of a key. -/
def keyPart : Scan String := do
  match ← peek with
  | some '\'' => literalText
  | some '"' => lineText
  | some c =>
    if isBareKeyChar c then return String.ofList (← takeWhile isBareKeyChar)
    else refuse .keyStart
  | none => refuse .keyStart

/-- Reads the parts of a key after the first, each behind a point. -/
def keyParts : Nat → Key → Scan Key
  | 0, parts => return parts
  | fuel + 1, parts => do
    skip isSpace
    if (← peek) == some '.' then
      drop 1
      skip isSpace
      keyParts fuel (parts ++ [← keyPart])
    else return parts

/-- Reads a key and passes over the blanks behind it. -/
def key : Scan Key := do
  let first ← keyPart
  keyParts ((← get).length + 1) [first]

end Scan

end PlaybookLint.Toml
