import PlaybookLint.Pattern.Reader
import PlaybookLint.Text.CharacterName

/-!
Escapes of search patterns, outside and inside a bracketed set: single letters, hexadecimal and
octal codes, kinds of character, edges and references to groups.
-/

namespace PlaybookLint.Pattern

/-- Letters that stand for a control character. -/
def controlCode? : Char → Option Nat
  | 'a' => some 7
  | 'b' => some 8
  | 'f' => some 12
  | 'n' => some 10
  | 'r' => some 13
  | 't' => some 9
  | 'v' => some 11
  | '\\' => some 92
  | _ => none

/-- Letters that stand for a kind of character. -/
def category? : Char → Option (Category × Bool)
  | 'd' => some (.digit, false)
  | 'D' => some (.digit, true)
  | 's' => some (.space, false)
  | 'S' => some (.space, true)
  | 'w' => some (.word, false)
  | 'W' => some (.word, true)
  | _ => none

/-- Letters that stand for a place. -/
def edge? : Char → Option Edge
  | 'A' => some .textStart
  | 'Z' => some .textEnd
  | 'b' => some .wordEdge
  | 'B' => some .noWordEdge
  | _ => none

def isHexDigit (c : Char) : Bool :=
  c.isDigit || ('a' ≤ c && c ≤ 'f') || ('A' ≤ c && c ≤ 'F')

def isOctalDigit (c : Char) : Bool := '0' ≤ c && c ≤ '7'

def hexValue (c : Char) : Nat :=
  if c.isDigit then c.toNat - '0'.toNat
  else if 'a' ≤ c then c.toNat - 'a'.toNat + 10
  else c.toNat - 'A'.toNat + 10

/-- The number that digits stand for in a base. -/
def numberIn (base : Nat) (digits : List Char) : Nat :=
  digits.foldl (fun total c => total * base + hexValue c) 0

/-- The text of an escape that begins with the letter `c` and goes on with `digits`. -/
def escapeText (c : Char) (digits : List Char) : String := String.ofList ('\\' :: c :: digits)

namespace Reading

/-- Refuses an escape as a whole. -/
def badEscape {α : Type} (c : Char) (digits : List Char) : Reading α :=
  refuse s!"bad escape {escapeText c digits}" (digits.length + 2)

/-- Reads the code of an escape with a fixed number of hexadecimal digits. -/
def hexEscape (c : Char) (count : Nat) : Reading Nat := do
  let digits ← takeSome isHexDigit count
  if digits.length != count then
    refuse s!"incomplete escape {escapeText c digits}" (digits.length + 2)
  let code := numberIn 16 digits
  if 0x10ffff < code then badEscape c digits else return code

/-- Reads an escape that names a character. -/
def namedEscape : Reading Nat := do
  if !(← accept '\x7b') then refuse "missing \x7b" 0
  let name ← takeUntil '\x7d' "character name"
  match Text.characterNamed? name with
  | some code => return code
  | none =>
    refuse s!"undefined character name {Text.quoted (String.ofList name)}" (name.length + 4)

/-- Refuses an octal code beyond the last. -/
def octalCode (c : Char) (digits : List Char) : Reading Nat := do
  let code := numberIn 8 (c :: digits)
  if 0o377 < code then
    refuse s!"octal escape value {escapeText c digits} outside of range 0-0o377"
      (digits.length + 2)
  else return code

/-- Reads the rest of an escape that begins with a letter or a sign, as the code of a character. -/
def otherEscape (c : Char) : Reading Nat :=
  if c.isAlpha then badEscape c [] else return c.toNat

/-- Reads the rest of an escape inside a set. -/
def setEscape (c : Char) : Reading SetItem := do
  if let some code := controlCode? c then return .code code
  if let some (kind, negated) := category? c then return .category kind negated
  if c == 'x' then return .code (← hexEscape c 2)
  if c == 'u' then return .code (← hexEscape c 4)
  if c == 'U' then return .code (← hexEscape c 8)
  if c == 'N' then return .code (← namedEscape)
  if isOctalDigit c then
    let digits ← takeSome isOctalDigit 2
    return .code (← octalCode c digits)
  if c.isDigit then badEscape c [] else return .code (← otherEscape c)

/-- Reads a reference to a group whose number is written with the given digits. -/
def groupReference (c : Char) (digits : List Char) : Reading Item := do
  let index := numberIn 10 (c :: digits)
  if index < (← groupCount) then
    match ← closedWidth? index with
    | none => refuse "cannot refer to an open group" (digits.length + 2)
    | some width =>
      checkLookBehind index
      return .recall index width
  else refuse s!"invalid group reference {index}" (digits.length + 1)

/-- Reads an escape that begins with a digit other than zero: three octal digits are a code, anything
shorter refers to a group. -/
def digitEscape (c : Char) : Reading Item := do
  match ← takeSome Char.isDigit 1 with
  | [d] =>
    if isOctalDigit c && isOctalDigit d then
      match ← takeSome isOctalDigit 1 with
      | [e] => return .literal (← octalCode c [d, e])
      | _ => groupReference c [d]
    else groupReference c [d]
  | _ => groupReference c []

/-- Reads the rest of an escape outside sets. -/
def itemEscape (c : Char) : Reading Item := do
  if let some edge := edge? c then return .edge edge
  if let some (kind, negated) := category? c then return .set false [.category kind negated]
  if let some code := controlCode? c then return .literal code
  if c == 'x' then return .literal (← hexEscape c 2)
  if c == 'u' then return .literal (← hexEscape c 4)
  if c == 'U' then return .literal (← hexEscape c 8)
  if c == 'N' then return .literal (← namedEscape)
  if c == '0' then return .literal (numberIn 8 (← takeSome isOctalDigit 2))
  if c.isDigit then digitEscape c else return .literal (← otherEscape c)

end Reading

end PlaybookLint.Pattern
