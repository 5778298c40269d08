import PlaybookLint.Shell.Syntax

/-!
The part of a script that is still to be read. A backslash at the end of a line joins it to the next
one. Documents begin after the line that asks for them; until that line ends they are awaited.
-/

namespace PlaybookLint.Shell

/-- The words that the language itself is made of. -/
def keywords : List String :=
  ["!", "case", "do", "done", "elif", "else", "esac", "fi", "for", "if", "in", "then", "until",
    "while", "\x7b", "\x7d"]

/-- What a script falls into. -/
inductive Token where
  | word (w : Word)
  | keyword (name : String)
  | operator (sign : String)
  | redirect (fd : Option Nat) (sign : String)
  | newline
  | ending

/-- What messages call a token. -/
def Token.name : Token → String
  | .word _ => "word"
  | .keyword name => "\"" ++ name ++ "\""
  | .operator sign => "\"" ++ sign ++ "\""
  | .redirect _ _ => "redirection"
  | .newline => "newline"
  | .ending => "end of file"

/-- A document that a redirection asks for: it goes up to a line of its own, and tabs at the
beginnings of its lines may be dropped. -/
structure Awaited where
  number : Nat
  terminator : Octets
  verbatim : Bool
  dropsTabs : Bool
deriving Repr

structure Input where
  dialect : Dialect
  rest : Octets
  line : Nat
  /-- A token that has been read and put back. -/
  pushed : Option Token
  awaited : List Awaited
  documents : List (Nat × Word)
  /-- The number of the next document. -/
  nextDocument : Nat
  aliases : List (Octets × Octets)
  /-- Names that are being replaced, each until no more than some characters are left. -/
  replacing : List (Octets × Nat)
  /-- How many characters are left after texts that stood for names and ended with a blank. -/
  blankEnds : List Nat

/-- Why a script cannot be read. -/
inductive SyntaxCause where
  | unexpected (found : Token) (expected : Option String)
  | unterminatedQuote (quote : Char)
  | missingBrace
  | missingParentheses
  | openBackquote
  | badLoopVariable (name : Octets)
  | badFunctionName (name : Octets)
  | tooDeep

structure SyntaxFault where
  line : Nat
  cause : SyntaxCause
  /-- What is left of the line. -/
  rest : Octets

/-- What the plain shell says of a fault. -/
def SyntaxCause.message : SyntaxCause → String
  | .unexpected found none => found.name ++ " unexpected"
  | .unexpected found (some expected) =>
    found.name ++ " unexpected (expecting \"" ++ expected ++ "\")"
  | .unterminatedQuote _ => "Unterminated quoted string"
  | .missingBrace => "Missing '\x7d'"
  | .missingParentheses => "Missing '))'"
  | .openBackquote => "EOF in backquote substitution"
  | .badLoopVariable _ => "Bad for loop variable"
  | .badFunctionName _ => "Bad function name"
  | .tooDeep => "too many nested commands"

/-- Reading takes characters off the input or finds a fault. -/
abbrev Reader (α : Type) := StateT Input (Except SyntaxFault) α

namespace Input

/-- The input of a whole script. -/
def ofScript (dialect : Dialect) (script : Octets) : Input where
  dialect := dialect
  rest := script
  line := 1
  pushed := none
  awaited := []
  documents := []
  nextDocument := 0
  aliases := []
  replacing := []
  blankEnds := []

/-- Takes away backslashes that join lines. -/
def joined (line : Nat) : Octets → Octets × Nat
  | '\\' :: '\n' :: rest => joined (line + 1) rest
  | rest => (rest, line)

end Input

namespace Reader

def fault {α : Type} (cause : SyntaxCause) : Reader α := do
  let s ← get
  throw ⟨s.line, cause, s.rest⟩

/-- Joins lines at the place of reading. -/
def join : Reader Unit :=
  modify fun s =>
    let (rest, line) := Input.joined s.line s.rest
    { s with rest, line }

/-- The next character as it stands, and its line end counted. -/
def takeRaw? : Reader (Option Char) := do
  let s ← get
  match s.rest with
  | [] => return none
  | c :: rest =>
    set { s with rest, line := if c == '\n' then s.line + 1 else s.line }
    return some c

/-- The next character without taking it. -/
def peek? : Reader (Option Char) := do
  join
  return (← get).rest.head?

/-- The next character, lines being joined. -/
def take? : Reader (Option Char) := do
  join
  takeRaw?

/-- Takes the next character if it is a given one. -/
def takeIf (wanted : Char) : Reader Bool := do
  if (← peek?) == some wanted then
    let _ ← takeRaw?
    return true
  else return false

/-- How many characters are left, and one more. -/
def bound : Reader Nat := do return (← get).rest.length + 1

/-- Takes characters of a kind, lines being joined. -/
def takeWhile (wanted : Char → Bool) : Reader Octets := do
  go (← bound) []
where
  go : Nat → Octets → Reader Octets
    | 0, taken => return taken.reverse
    | fuel + 1, taken => do
      match ← peek? with
      | some c =>
        if wanted c then
          let _ ← takeRaw?
          go fuel (c :: taken)
        else return taken.reverse
      | none => return taken.reverse

/-- Puts a token back. -/
def pushBack (t : Token) : Reader Unit := modify fun s => { s with pushed := some t }

/-- Reads another text in place of the input, which is gone on with afterwards. -/
def within {α : Type} (text : Octets) (line : Nat) (reader : Reader α) : Reader α := do
  let outer ← get
  set { outer with rest := text, line, pushed := none, awaited := [], replacing := [], blankEnds := [] }
  let result ← reader
  modify fun inner =>
    { inner with rest := outer.rest, line := outer.line, pushed := outer.pushed,
                 awaited := outer.awaited, replacing := outer.replacing
                 blankEnds := outer.blankEnds }
  return result

end Reader

end PlaybookLint.Shell
