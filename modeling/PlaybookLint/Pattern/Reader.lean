import PlaybookLint.Pattern.Fault
import PlaybookLint.Pattern.Syntax
import PlaybookLint.Text.DecimalDigit
import PlaybookLint.Text.Blank
import PlaybookLint.Text.Identifier

/-!
Reading a pattern text token by token. A backslash and the character after it are one token; a
backslash at the end is met, and refused, as soon as the token before it is taken.
-/

namespace PlaybookLint.Pattern

/-- A token of a pattern text. -/
inductive Token where
  | plain (c : Char)
  | escape (c : Char)
  | loneBackslash
deriving Repr, DecidableEq

namespace Token

def chars : Token → List Char
  | .plain c => [c]
  | .escape c => ['\\', c]
  | .loneBackslash => ['\\']

def size (t : Token) : Nat := t.chars.length

/-- The tokens of a text. -/
def ofChars : List Char → List Token
  | [] => []
  | ['\\'] => [.loneBackslash]
  | '\\' :: c :: rest => .escape c :: ofChars rest
  | c :: rest => .plain c :: ofChars rest

end Token

/-- What has been read so far: the tokens left, the position of the next, the flags for the whole
pattern, the named groups, the widths of the groups that are closed (group 0 never is), the number of
groups when the look-behind began that is being read, and the groups that conditions ask about. -/
structure Progress where
  tokens : List Token
  position : Nat
  flags : Flags
  names : List (String × Nat)
  widths : List (Option Width)
  lookBehind : Option Nat
  asked : List (Nat × Nat)

abbrev Reading := StateT Progress (Except Fault)

namespace Reading

/-- Refuses the pattern at `back` characters before the next token. -/
def refuse {α : Type} (message : String) (back : Nat) : Reading α := do
  let s ← get
  throw (.malformed message (some (s.position - back)))

/-- The next token. -/
def peek : Reading (Option Token) := do
  return (← get).tokens.head?

/-- Refuses a lone backslash that has become the next token. -/
def checkNext : Reading Unit := do
  let s ← get
  match s.tokens with
  | .loneBackslash :: _ =>
    throw (.malformed "bad escape (end of pattern)" (some s.position))
  | _ => pure ()

/-- Takes the next token, if there is one. -/
def take : Reading (Option Token) := do
  let s ← get
  match s.tokens with
  | [] => return none
  | t :: rest =>
    set { s with tokens := rest, position := s.position + t.size }
    checkNext
    return some t

/-- Takes the next token if it is the character `c`. -/
def accept (c : Char) : Reading Bool := do
  if (← peek) == some (.plain c) then
    let _ ← take
    return true
  else return false

/-- Takes at most `count` characters that satisfy `wanted`. -/
def takeSome (wanted : Char → Bool) : Nat → Reading (List Char)
  | 0 => return []
  | count + 1 => do
    match ← peek with
    | some (.plain c) =>
      if wanted c then
        let _ ← take
        return c :: (← takeSome wanted count)
      else return []
    | _ => return []

/-- Takes all characters that satisfy `wanted`. -/
def takeAll (wanted : Char → Bool) : Reading (List Char) := do
  takeSome wanted (← get).tokens.length

/-- Takes tokens up to `last` and gives their text; `what` names the text in a refusal. -/
def takeUntilFrom (last : Char) (what : String) : Nat → List Char → Reading (List Char)
  | 0, text => return text
  | fuel + 1, text => do
    match ← take with
    | none =>
      if text.isEmpty then refuse s!"missing {what}" 0
      else refuse s!"missing {last}, unterminated name" text.length
    | some t =>
      if t == .plain last then
        if text.isEmpty then refuse s!"missing {what}" 1 else return text
      else takeUntilFrom last what fuel (text ++ t.chars)

/-- Takes tokens up to `last` and gives their text; `what` names the text in a refusal. -/
def takeUntil (last : Char) (what : String) : Reading (List Char) := do
  takeUntilFrom last what ((← get).tokens.length + 1) []

/-- Skips tokens up to and including the character `last`; false if it never comes. -/
def skipPast (last : Char) : Nat → Reading Bool
  | 0 => return false
  | fuel + 1 => do
    match ← take with
    | none => return false
    | some t => if t == .plain last then return true else skipPast last fuel

/-! ### Groups -/

/-- The number of groups begun so far, the whole pattern included. -/
def groupCount : Reading Nat := do
  return (← get).widths.length

/-- The width of a group that is closed. -/
def closedWidth? (index : Nat) : Reading (Option Width) := do
  return ((← get).widths[index]?).join

/-- Begins a group. -/
def openGroup (name : Option String) : Reading Nat := do
  let s ← get
  let index := s.widths.length
  match name with
  | none => set { s with widths := s.widths ++ [none] }
  | some name =>
    match s.names.lookup name with
    | some earlier =>
      refuse s!"redefinition of group name {Text.quoted name} as group {index}; was group {earlier}"
        (name.length + 1)
    | none =>
      set { s with widths := s.widths ++ [none], names := (name, index) :: s.names }
  return index

/-- Ends a group. -/
def closeGroup (index : Nat) (width : Width) : Reading Unit :=
  modify fun s => { s with widths := s.widths.set index (some width) }

/-- Refuses a group that cannot be asked about inside the look-behind that is being read. -/
def checkLookBehind (index : Nat) : Reading Unit := do
  match (← get).lookBehind with
  | none => pure ()
  | some bound =>
    if (← closedWidth? index).isNone then refuse "cannot refer to an open group" 0
    if bound ≤ index then
      refuse "cannot refer to group defined in the same lookbehind subpattern" 0

/-- Refuses a text that could not name a group. -/
def checkName (name : List Char) : Reading Unit := do
  if !Text.isIdentifier name then
    refuse s!"bad character in group name {Text.quoted (String.ofList name)}" (name.length + 1)

end Reading

/-- What is read before the first token. -/
def Progress.start (source : String) : Progress where
  tokens := Token.ofChars source.toList
  position := 0
  flags := {}
  names := []
  widths := [none]
  lookBehind := none
  asked := []

end PlaybookLint.Pattern
