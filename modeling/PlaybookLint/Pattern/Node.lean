import PlaybookLint.Pattern.Fault
import PlaybookLint.Pattern.CharTest

/-!
Patterns ready for matching: flags have taken effect, and what is left is a binary tree of tests on
single characters, places, marks, repetitions and choices. What a test or a choice can know of the
pattern around it stands in its node: the character that must come next, the test its first
character must pass, and whether a repetition goes on around it.
-/

namespace PlaybookLint.Pattern

/-- A place that takes no character, flags having taken effect. -/
inductive Place where
  | textStart
  | lineStart
  | textEnd
  | textEndOrLastLineFeed
  | lineEnd
  | wordEdge (ascii : Bool)
  | noWordEdge (ascii : Bool)
deriving Repr, DecidableEq

/-- A pattern ready for matching. `looped` tells whether the node stands inside the body of a
repetition that may be taken up again. -/
inductive Node where
  | empty
  | nothing
  | one (test : CharTest)
  | edge (kind : Place)
  /-- Notes where group `index` begins or ends. -/
  | mark (index : Nat) (isEnd : Bool)
  | both (first second : Node)
  /-- The first option, which has to begin with a character that passes `front`, or the rest. -/
  | either (looped : Bool) (front : Option CharTest) (first rest : Node)
  /-- Repeats one character; `next` is the character that follows, where that is known. -/
  | span (looped : Bool) (greed : Greed) (least : Nat) (greatest : Option Nat) (test : CharTest)
      (next : Option Nat)
  | loop (looped : Bool) (greed : Greed) (least : Nat) (greatest : Option Nat) (body : Node)
  | atomic (body : Node)
  /-- Looks at what begins `back` characters before. -/
  | look (looped positive : Bool) (back : Nat) (body : Node)
  | recall (index : Nat) (folding : Folding)
  | whether (index : Nat) (present absent : Node)
deriving Repr

def Flags.place (f : Flags) : Edge → Place
  | .textStart => .textStart
  | .textEnd => .textEnd
  | .lineStart => if f.multiline then .lineStart else .textStart
  | .lineEnd => if f.multiline then .lineEnd else .textEndOrLastLineFeed
  | .wordEdge => .wordEdge f.ascii
  | .noWordEdge => .noWordEdge f.ascii

def Greed.label : Greed → String
  | .greedy => "MAX_REPEAT"
  | .lazy => "MIN_REPEAT"
  | .possessive => "POSSESSIVE_REPEAT"

mutual

/-- What the start of an item says of the next character: the test it must pass, or nothing to go by.
An item that leaves the question to what follows it says neither. -/
def Item.front? (f : Flags) : Item → Option (Option CharTest)
  | .group none added removed body => Item.frontOfAll? (f.inGroup added removed) body
  | item => some (item.charTest? f)

/-- What the start of items in sequence says of the next character. -/
def Item.frontOfAll? (f : Flags) : List Item → Option (Option CharTest)
  | [] => none
  | item :: rest => Item.front? f item <|> Item.frontOfAll? f rest

end

/-- The test of a body that takes one character at a time. -/
def Item.single? (f : Flags) : List Item → Option CharTest
  | [.group none added removed body] => Item.single? (f.inGroup added removed) body
  | [item] => item.charTest? f
  | _ => none

/-- Where an item stands: the flags in force, whether inside the body of a repetition that may be
taken up again, the test for the first character of what follows, and how deep calls may still nest. -/
structure Setting where
  flags : Flags
  looped : Bool
  after : Option CharTest
  room : Nat

/-- Refuses a repetition where the flags forbid it. -/
def checkRepetition (f : Flags) (greed : Greed) : Except Fault Unit :=
  if f.template then
    .error (.malformed s!"internal: unsupported template operator {greed.label}" none)
  else .ok ()

/-- The number of characters to look behind for, which must be one number. -/
def widthBehind (room : Nat) (body : List Item) : Except Fault Nat := do
  checkRoom room (Item.widthDepthOfAll body)
  let width := Item.widthOfAll body
  if width.isFixed then return width.least
  else throw (.malformed "look-behind requires fixed-width pattern" none)

mutual

/-- Lets the flags take effect on an item. -/
def Item.resolve (s : Setting) : Item → Except Fault Node
  | .literal n => return .one (.ofCode s.flags false n)
  | .notLiteral n => return .one (.ofCode s.flags true n)
  | .dot => return .one (if s.flags.dotAll then .anything else .notLineFeed)
  | .set negated items => return .one (.ofSet s.flags negated items)
  | .edge kind => return .edge (s.flags.place kind)
  | .repeated greed least greatest body => do
    checkRepetition s.flags greed
    let looped := s.looped || greed != .possessive
    let inner ← deeper s.room fun room => Item.resolveAll ⟨s.flags, looped, none, room⟩ body
    match Item.single? s.flags body with
    | some test =>
      return .span s.looped greed least greatest test (s.after.bind CharTest.exactCode?)
    | none => return .loop s.looped greed least greatest inner
  | .group none added removed body =>
    deeper s.room fun room =>
      Item.resolveAll { s with flags := s.flags.inGroup added removed, room } body
  | .group (some i) added removed body => do
    let inner ← deeper s.room fun room =>
      Item.resolveAll ⟨s.flags.inGroup added removed, s.looped, none, room⟩ body
    return .both (.mark i false) (.both inner (.mark i true))
  | .atomic body => do
    let inner ← deeper s.room fun room => Item.resolveAll { s with after := none, room } body
    return .atomic inner
  | .look ahead positive body => do
    let back ← if ahead then pure 0 else widthBehind s.room body
    let inner ← deeper s.room fun room => Item.resolveAll { s with after := none, room } body
    return .look s.looped positive back inner
  | .choice options => Item.resolveChoice { s with after := none } options
  | .recall index _ => return .recall index s.flags.folding
  | .conditional index present absent => do
    match absent with
    | some (item :: rest) =>
      let yes ← deeper s.room fun room => Item.resolveAll { s with after := none, room } present
      let no ← deeper s.room fun room => Item.resolveAll { s with room } (item :: rest)
      return .whether index yes no
    | _ =>
      let yes ← deeper s.room fun room => Item.resolveAll { s with room } present
      return .whether index yes .empty

/-- Lets the flags take effect on items in sequence. -/
def Item.resolveAll (s : Setting) : List Item → Except Fault Node
  | [] => return .empty
  | item :: rest => do
    let first ← Item.resolve { s with after := (Item.frontOfAll? s.flags rest).getD s.after } item
    return .both first (← Item.resolveAll s rest)

/-- Lets the flags take effect on each of several options. -/
def Item.resolveChoice (s : Setting) : List (List Item) → Except Fault Node
  | [] => return .nothing
  | option :: rest => do
    let front := (Item.frontOfAll? s.flags option).join.filter CharTest.isExact
    let first ← deeper s.room fun room => Item.resolveAll { s with room } option
    return .either s.looped front first (← Item.resolveChoice s rest)

end

/-- The most characters that a look-behind in the pattern goes back. -/
def Node.farthestBack : Node → Nat
  | .both first second => max first.farthestBack second.farthestBack
  | .either _ _ first rest => max first.farthestBack rest.farthestBack
  | .loop _ _ _ _ body | .atomic body => body.farthestBack
  | .look _ _ back body => max back body.farthestBack
  | .whether _ present absent => max present.farthestBack absent.farthestBack
  | _ => 0

/-- A look-behind goes back fewer characters than this. -/
def backBound : Nat := 2147483648

/-! ### Where a match can begin -/

mutual

/-- Do items in sequence begin with a character that is compared as it stands, and are they all such
characters? -/
def Item.literalFront (f : Flags) : List Item → Bool × Bool
  | [] => (false, true)
  | item :: rest =>
    let (anyHere, allHere) := Item.literalFrontOf f item
    if allHere then
      let (anyLater, allLater) := Item.literalFront f rest
      (anyHere || anyLater, allLater)
    else (anyHere, false)

/-- The same of one item. -/
def Item.literalFrontOf (f : Flags) : Item → Bool × Bool
  | .literal n => if f.folding.isCased n then (false, false) else (true, true)
  | .group _ added removed body => Item.literalFront (f.inGroup added removed) body
  | _ => (false, false)

end

/-- Is an element of a set looked at as it stands? -/
def SetItem.isCaseless (f : Flags) : SetItem → Bool
  | .code n => !f.folding.isCased n
  | .range first last => !f.ignoreCase || (last ≤ 0xffff && !f.folding.anyCased first last)
  | .category _ _ => true

/-- Does an option begin with a character that is compared as it stands? -/
def Item.startsPlainly (f : Flags) : List Item → Bool
  | .literal n :: _ => !f.folding.isCased n
  | _ => false

/-- Do items in sequence begin with a set of characters that are looked at as they stand? -/
def Item.setFront (f : Flags) : List Item → Bool
  | .group _ added removed body :: _ => Item.setFront (f.inGroup added removed) body
  | .literal n :: _ => !f.folding.isCased n
  | .set _ items :: _ => items.all (·.isCaseless f)
  | .choice options :: _ => options.all (Item.startsPlainly f)
  | _ => false

end PlaybookLint.Pattern
