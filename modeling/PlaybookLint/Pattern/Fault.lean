import PlaybookLint.Text.Quoted
import PlaybookLint.Text.DecimalDigit

/-!
Why a text is not a search pattern. Most faults have a place in the text; the place is told as a
position and, where the text has several lines, as line and column as well.
-/

namespace PlaybookLint.Pattern

/-- What of a pattern is beyond what can be compiled. -/
inductive Excess where
  /-- Something is repeated more often than can be counted. -/
  | repetition
  /-- A look-behind looks too far back. -/
  | lookBehind
  /-- Groups stand inside groups deeper than calls may nest. -/
  | nesting
deriving Repr, DecidableEq

def Excess.message : Excess → String
  | .repetition => "the repetition number is too large"
  | .lookBehind => "invalid SRE code"
  | .nesting => "maximum recursion depth exceeded"

inductive Fault where
  /-- The text breaks the grammar of patterns. -/
  | malformed (message : String) (position : Option Nat)
  | excess (what : Excess)
  /-- The characters are said to be both ASCII and of every script. -/
  | kindsConflict
  /-- A repetition count has too many digits to be read. -/
  | tooManyDigits (refusal : Text.TooManyDigits)
deriving Repr, DecidableEq

/-- Goes on one call deeper. `room` tells how many calls may still be nested, those aside that come
back at once without calling any further. -/
def deeper {m : Type → Type} {α : Type} [MonadExceptOf Fault m] (room : Nat) (next : Nat → m α) :
    m α :=
  match room with
  | 0 => throw (.excess .nesting)
  | room + 1 => next room

/-- Refuses what needs more nested calls than there is room for. -/
def checkRoom {m : Type → Type} [MonadExceptOf Fault m] [Monad m] (room needed : Nat) : m Unit :=
  if room < needed then throw (.excess .nesting) else pure ()

namespace Fault

/-- Line and column of a position, both counted from one. -/
def lineAndColumn (source : List Char) (position : Nat) : Nat × Nat :=
  let before := source.take position
  (before.count '\n' + 1, (before.reverse.takeWhile (· != '\n')).length + 1)

/-- The message of a fault in the pattern text `source`. -/
def message (source : String) : Fault → String
  | .malformed text none => text
  | .malformed text (some position) =>
    let cs := source.toList
    let place := if cs.contains '\n' then
        let (line, column) := lineAndColumn cs position
        s!" (line {line}, column {column})"
      else ""
    s!"{text} at position {position}{place}"
  | .excess what => what.message
  | .kindsConflict => "ASCII and UNICODE flags are incompatible"
  | .tooManyDigits refusal => refusal.message

/-- Is the fault one of grammar? -/
def isMalformed : Fault → Bool
  | .malformed _ _ => true
  | _ => false

end Fault

end PlaybookLint.Pattern
