import PlaybookLint.Toml.Refusal

/-!
Reading a document from left to right. The state is the text that is left; a refusal keeps how much
of it there was.
-/

namespace PlaybookLint.Toml

abbrev Scan := StateT (List Char) (Except Halt)

/-- Blanks inside a line. -/
def isSpace (c : Char) : Bool := c == ' ' || c == '\t'

/-- Blanks and line feeds. -/
def isSpaceOrLineFeed (c : Char) : Bool := isSpace c || c == '\n'

/-- Controls that may stand neither in comments nor in texts of one line. -/
def isControl (c : Char) : Bool := (c.toNat < 32 && c != '\t') || c.toNat == 127

/-- Controls that may not stand in texts of several lines. -/
def isControlInLines (c : Char) : Bool := isControl c && c != '\n'

namespace Scan

/-- Refuses the text here. -/
def refuse {α : Type} (what : Cause) : Scan α := do
  throw (.cause what (← get).length)

/-- Refuses the text at an earlier or later place. -/
def refuseAt {α : Type} (what : Cause) (place : List Char) : Scan α :=
  throw (.cause what place.length)

/-- Goes on one call deeper. `room` tells how many calls may still be nested, those aside that come
back without calling any that nest further. -/
def deeper {α : Type} (room : Nat) (next : Nat → Scan α) : Scan α :=
  match room with
  | 0 => throw .tooDeep
  | room + 1 => next room

/-- The next character. -/
def peek : Scan (Option Char) := do return (← get).head?

/-- Passes over a number of characters. -/
def drop (count : Nat) : Scan Unit := modify (List.drop count)

/-- Does the text go on with `word`? -/
def startsWith (word : String) : Scan Bool := do return word.toList.isPrefixOf (← get)

/-- Takes the characters that satisfy `wanted`. -/
def takeWhile (wanted : Char → Bool) : Scan (List Char) := do
  let text ← get
  set (text.dropWhile wanted)
  return text.takeWhile wanted

/-- Passes over the characters that satisfy `wanted`. -/
def skip (wanted : Char → Bool) : Scan Unit := modify (List.dropWhile wanted)

/-- The text up to the first place where `closing` stands, and the text from there on. -/
def splitAt? (closing : List Char) : List Char → Option (List Char × List Char)
  | [] => if closing.isEmpty then some ([], []) else none
  | c :: rest =>
    if closing.isPrefixOf (c :: rest) then some ([], c :: rest)
    else (splitAt? closing rest).map fun (before, after) => (c :: before, after)

/-- Refuses the first of `taken` that is forbidden; `text` begins with `taken`. -/
def checkCharacters (forbidden : Char → Bool) (taken text : List Char) : Scan Unit :=
  match taken.dropWhile (!forbidden ·) with
  | [] => pure ()
  | c :: _ =>
    refuseAt (.invalidCharacter c) (text.drop (taken.takeWhile (!forbidden ·)).length)

/-- Takes the text up to `closing`, which must come, and passes over it. -/
def takeUntil (closing : String) (forbidden : Char → Bool) : Scan (List Char) := do
  let text ← get
  match splitAt? closing.toList text with
  | none => refuseAt (.expected closing) []
  | some (taken, after) =>
    checkCharacters forbidden taken text
    set (after.drop closing.length)
    return taken

/-- Passes over a comment, if one begins here. -/
def skipComment : Scan Unit := do
  match ← get with
  | '#' :: text =>
    let taken := text.takeWhile (· != '\n')
    checkCharacters isControl taken text
    set (text.dropWhile (· != '\n'))
  | _ => pure ()

/-- Passes over blanks, line feeds and comments. -/
def skipFiller : Nat → Scan Unit
  | 0 => pure ()
  | fuel + 1 => do
    let before := (← get).length
    skip isSpaceOrLineFeed
    skipComment
    if (← get).length != before then skipFiller fuel

/-- Passes over blanks, line feeds and comments. -/
def filler : Scan Unit := do skipFiller ((← get).length + 1)

end Scan

end PlaybookLint.Toml
