import PlaybookLint.Pattern.Parser
import PlaybookLint.Pattern.Matcher

/-!
Search patterns: compiled once from their text, then searched for in any text. A search finds the
first place where the pattern matches and tells what each group took there.
-/

namespace PlaybookLint

/-- A compiled pattern together with its text. `least` is the fewest characters it can take, and
`plainFront` tells whether it begins with characters that are compared as they stand. -/
structure Pattern where
  source : String
  groups : Nat
  least : Nat
  plainFront : Bool
  root : Pattern.Node
deriving Repr

namespace Pattern

/-- Lets the flags take effect on a whole pattern, whose width is measured first. -/
def resolveWhole (room : Nat) (written : Written) : Except Fault Node :=
  deeper room fun room => do
    checkRoom room (Item.widthDepthOfAll written.items + 1)
    deeper room fun room => Item.resolveAll ⟨written.flags, false, none, room⟩ written.items

/-- Compiles the text of a pattern; `room` tells how deep calls may nest meanwhile. -/
def compile (room : Nat) (source : String) : Except Fault Pattern := do
  let written ← Written.ofText room source
  let f := written.flags
  let root ← resolveWhole room written
  if backBound ≤ root.farthestBack then throw (.excess .lookBehind)
  let least := (Item.widthOfAll written.items).least
  let plainFront := 0 < least
    && ((Item.literalFront f written.items).1 || Item.setFront f written.items)
  return ⟨source, written.groups - 1, least, plainFront, root⟩

/-- How many places of a text of that length are tried, from the first on: all that leave room for
the pattern and one more, or all at a character. -/
def placeCount (p : Pattern) (length : Nat) : Nat :=
  if length < p.least then 0
  else if p.plainFront then length
  else length - (p.least - 1) + 1

/-- The marks of the first match from the place on, when `left` more places are to be tried. -/
def searchFrom (p : Pattern) (text : Subject) (place : Nat) : Nat → Option Marks
  | 0 => none
  | left + 1 =>
    match p.root.run text ⟨place, []⟩ place settled with
    | (true, trail) => some trail.marks
    | (false, _) => p.searchFrom text (place + 1) left

/-- What each group took at the first match, if there is one; the list begins with group 1. -/
def search? (p : Pattern) (text : String) : Except BrokenGroup (Option (List (Option String))) :=
  let subject := text.toList.toArray
  match p.searchFrom subject 0 (p.placeCount subject.size) with
  | none => .ok none
  | some marks => (marks.allTaken subject p.groups).map some

/-- Does the pattern match somewhere in the text? -/
def occursIn (p : Pattern) (text : String) : Except BrokenGroup Bool :=
  (p.search? text).map Option.isSome

end Pattern

end PlaybookLint
