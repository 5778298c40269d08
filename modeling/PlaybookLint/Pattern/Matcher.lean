import PlaybookLint.Pattern.Node

/-!
Matching by backtracking. Each construct is told what must follow it and tries its choices in order,
so the first way through the pattern is the one that counts. What was noted of groups on a way that
failed is taken back as far as a later choice can see it: a construct inside a repetition restores
the places that groups had, any other only forgets the groups that began after it.

An attempt also leaves behind the last place at which it began to look at a part of the pattern. A
repetition that does not give back what it took goes on from there after its last turn, whether or
not that turn succeeded.
-/

namespace PlaybookLint.Pattern

/-- The text that is searched. -/
abbrev Subject := Array Char

/-- Where groups began and ended, as far as that was noted: entry `2 g - 2` tells the begin of group
`g` and entry `2 g - 1` its end. -/
abbrev Marks := List (Option Nat)

namespace Marks

/-- Notes a place. Entries passed over are left open. -/
def note (marks : Marks) (entry place : Nat) : Marks :=
  if entry < marks.length then marks.set entry (some place)
  else marks ++ List.replicate (entry - marks.length) none ++ [some place]

/-- Begin and end of a group, if both were noted. -/
def bounds? (marks : Marks) (group : Nat) : Option (Nat × Nat) :=
  match marks[2 * group - 2]?, marks[2 * group - 1]? with
  | some (some start), some (some stop) => some (start, stop)
  | _, _ => none

/-- Begin and end of a group that did not end before it began. -/
def extent? (marks : Marks) (group : Nat) : Option (Nat × Nat) :=
  (marks.bounds? group).filter fun (start, stop) => start ≤ stop

/-- The marks after a choice failed: `earlier` were those before it. -/
def restored (looped : Bool) (earlier marks : Marks) : Marks :=
  if looped then earlier else marks.take earlier.length

end Marks

/-- What an attempt leaves behind: the place where it last began to look, and the marks. -/
structure Trail where
  place : Nat
  marks : Marks
deriving Repr, DecidableEq

namespace Trail

def goTo (trail : Trail) (place : Nat) : Trail := { trail with place }

/-- The trail after a choice failed: `earlier` were the marks before it. -/
def restore (trail : Trail) (looped : Bool) (earlier : Marks) : Trail :=
  { trail with marks := Marks.restored looped earlier trail.marks }

end Trail

/-- Did the attempt succeed, and what did it leave behind? -/
abbrev Outcome := Bool × Trail

/-- What must follow a construct, at a place. -/
abbrev Follow := Trail → Nat → Outcome

/-- Does the character at the place, if any, belong to a word? -/
def isWordAt (text : Subject) (ascii : Bool) (place : Nat) : Bool :=
  match text[place]? with
  | some c => Category.word.holds ascii c.toNat
  | none => false

/-- Does the character before the place, if any, belong to a word? -/
def isWordBefore (text : Subject) (ascii : Bool) (place : Nat) : Bool :=
  place != 0 && isWordAt text ascii (place - 1)

/-- Is the place of the kind? A text without characters has no word edges. -/
def Place.isAt (text : Subject) (place : Nat) : Place → Bool
  | .textStart => place == 0
  | .lineStart => place == 0 || text[place - 1]? == some '\n'
  | .textEnd => place == text.size
  | .textEndOrLastLineFeed =>
    place == text.size || place + 1 == text.size && text[place]? == some '\n'
  | .lineEnd => place == text.size || text[place]? == some '\n'
  | .wordEdge ascii =>
    !text.isEmpty && isWordBefore text ascii place != isWordAt text ascii place
  | .noWordEdge ascii =>
    !text.isEmpty && isWordBefore text ascii place == isWordAt text ascii place

/-- Does the character at the place pass the test? -/
def CharTest.holdsAt (test : CharTest) (text : Subject) (place : Nat) : Bool :=
  match text[place]? with
  | some c => test.accepts c
  | none => false

/-- How many characters in a row, at most `most`, pass the test from the place on. -/
def CharTest.run (test : CharTest) (text : Subject) (place : Nat) : Nat → Nat
  | 0 => 0
  | most + 1 => if test.holdsAt text place then test.run text (place + 1) most + 1 else 0

/-- Are the characters from `start` up to `stop` repeated at the place? -/
def repeats (folding : Folding) (text : Subject) (start place : Nat) : Nat → Bool
  | 0 => true
  | count + 1 =>
    match text[start]?, text[place]? with
    | some wanted, some found =>
      folding.lower wanted.toNat == folding.lower found.toNat
        && repeats folding text (start + 1) (place + 1) count
    | _, _ => false

/-- Ends an attempt: what a construct that is settled for good is followed by. -/
def settled : Follow := fun trail place => (true, trail.goTo place)

/-! ### Repetitions of one character -/

/-- Tries what follows after `least + extra` characters, then after one character less, and so on
down to `least`; where the next character is known, only in front of it. -/
def giveBack (text : Subject) (looped : Bool) (next : Option Nat) (earlier : Marks) (follow : Follow)
    (start : Nat) (trail : Trail) : Nat → Outcome
  | 0 => attempt 0
  | extra + 1 =>
    match attempt (extra + 1) with
    | (true, trail) => (true, trail)
    | (false, trail) => giveBack text looped next earlier follow start trail extra
where
  attempt (extra : Nat) : Outcome :=
    let place := start + extra
    let fits := match next with
      | some n => (text[place]?).map Char.toNat == some n
      | none => true
    if fits then
      match follow (trail.goTo place) place with
      | (true, trail) => (true, trail)
      | (false, trail) => (false, trail.restore looped earlier)
    else (false, trail)

/-- Tries what follows at the place, then takes one more character, at most `more` times. -/
def takeMore (test : CharTest) (text : Subject) (looped : Bool) (earlier : Marks) (follow : Follow) :
    Nat → Trail → Nat → Outcome
  | more, trail, place =>
    match follow (trail.goTo place) place with
    | (true, trail) => (true, trail)
    | (false, trail) =>
      let trail := (trail.restore looped earlier).goTo place
      if test.holdsAt text place then
        let trail := if test.isFoldedSet then trail.goTo (place + 1) else trail
        match more with
        | 0 => (false, trail)
        | more + 1 => takeMore test text looped earlier follow more trail (place + 1)
      else (false, trail)

/-- Where an attempt stands after it counted characters: a set that is looked at by lower-case forms
is passed character by character, anything else is counted from the place where it began. -/
def afterCount (test : CharTest) (trail : Trail) (place count : Nat) : Trail :=
  trail.goTo (if test.isFoldedSet then place + count else place)

/-- Repeats one character. -/
def runSpan (text : Subject) (looped : Bool) (greed : Greed) (least : Nat) (greatest : Option Nat)
    (test : CharTest) (next : Option Nat) (trail : Trail) (place : Nat) (follow : Follow) : Outcome :=
  let left := text.size - place
  if left < least then (false, trail)
  else
    let most := min left (greatest.getD left)
    match greed with
    | .greedy =>
      let count := test.run text place most
      let trail := afterCount test trail place count
      if count < least then (false, trail)
      else giveBack text looped next trail.marks follow (place + least) trail (count - least)
    | .possessive =>
      let count := test.run text place most
      let trail := afterCount test trail place count
      if count < least then (false, trail) else follow trail (place + count)
    | .lazy =>
      let count := test.run text place least
      let trail := if least == 0 then trail.goTo place else afterCount test trail place count
      if count < least then (false, trail)
      else
        let more := (greatest.getD (text.size + least)) - least
        takeMore test text looped trail.marks follow more trail (place + least)

/-! ### Repetitions of anything else -/

/-- Matches at a place, before what must follow. -/
abbrev Attempt := Trail → Nat → Follow → Outcome

/-- May a repetition go on, when it may be made `most` more times? -/
def mayRepeat : Option Nat → Bool
  | some 0 => false
  | _ => true

/-- Repeats `body`, at first `least` times and then as often as possible up to `most` times in all.
`last` is where the repetition before this one began, if it was optional: a repetition that took
nothing is not repeated. -/
def repeatGreedy (body : Attempt) (follow : Follow) :
    Nat → Nat → Option Nat → Option Nat → Trail → Nat → Outcome
  | 0, _, _, _, trail, place => (false, trail.goTo place)
  | fuel + 1, least + 1, most, last, trail, place =>
    match body (trail.goTo place) place fun trail place =>
        repeatGreedy body follow fuel least (most.map (· - 1)) last trail place with
    | (true, trail) => (true, trail)
    | (false, trail) => (false, trail.goTo place)
  | fuel + 1, 0, most, last, trail, place =>
    let trail := trail.goTo place
    let onward : Outcome :=
      if mayRepeat most && last != some place then
        match body trail place fun trail further =>
            repeatGreedy body follow fuel 0 (most.map (· - 1)) (some place) trail further with
        | (true, trail) => (true, trail)
        | (false, _) => (false, trail)
      else (false, trail)
    match onward with
    | (true, trail) => (true, trail)
    | (false, trail) =>
      match follow trail place with
      | (true, trail) => (true, trail)
      | (false, trail) => (false, trail.goTo place)

/-- Repeats `body`, at first `least` times and then as seldom as possible. -/
def repeatLazy (looped : Bool) (body : Attempt) (follow : Follow) :
    Nat → Nat → Option Nat → Option Nat → Trail → Nat → Outcome
  | 0, _, _, _, trail, place => (false, trail.goTo place)
  | fuel + 1, least + 1, most, last, trail, place =>
    match body (trail.goTo place) place fun trail place =>
        repeatLazy looped body follow fuel least (most.map (· - 1)) last trail place with
    | (true, trail) => (true, trail)
    | (false, trail) => (false, trail.goTo place)
  | fuel + 1, 0, most, last, trail, place =>
    let earlier := trail.marks
    match follow (trail.goTo place) place with
    | (true, trail) => (true, trail)
    | (false, trail) =>
      let trail := (trail.restore looped earlier).goTo place
      if mayRepeat most && last != some place then
        match body trail place fun trail further =>
            repeatLazy looped body follow fuel 0 (most.map (· - 1)) (some place) trail further with
        | (true, trail) => (true, trail)
        | (false, trail) => (false, trail.goTo place)
      else (false, trail)

/-- Repeats `body` for good from the place on the trail, at first `least` times and then as often as
possible. A turn too many takes back what it noted of groups, but not the place it came to. -/
def repeatForGood (body : Attempt) : Nat → Nat → Option Nat → Option Nat → Trail → Outcome
  | 0, _, _, _, trail => (true, trail)
  | fuel + 1, least + 1, most, last, trail =>
    match body trail trail.place settled with
    | (true, trail) => repeatForGood body fuel least (most.map (· - 1)) last trail
    | (false, trail) => (false, trail)
  | fuel + 1, 0, most, last, trail =>
    let place := trail.place
    if mayRepeat most && last != some place then
      match body trail place settled with
      | (true, trail) => repeatForGood body fuel 0 (most.map (· - 1)) (some place) trail
      | (false, after) => (true, trail.goTo after.place)
    else (true, trail)

/-- More turns than any repetition takes in which a turn that follows an optional one begins
elsewhere. -/
def turnBound (text : Subject) (least : Nat) : Nat := least + (text.size + 2) * (text.size + 2)

/-! ### Whole patterns -/

/-- Matches a pattern at a place, before what must follow it. -/
def Node.run (text : Subject) : Node → Attempt
  | .empty, trail, place, follow => follow trail place
  | .nothing, trail, _, _ => (false, trail)
  | .one test, trail, place, follow =>
    if test.holdsAt text place then follow trail (place + 1) else (false, trail)
  | .edge kind, trail, place, follow =>
    if kind.isAt text place then follow trail place else (false, trail)
  | .mark index isEnd, trail, place, follow =>
    let entry := if isEnd then 2 * index - 1 else 2 * index - 2
    follow { trail with marks := Marks.note trail.marks entry place } place
  | .both first second, trail, place, follow =>
    first.run text trail place fun trail place => second.run text trail place follow
  | .either looped front first rest, trail, place, follow =>
    let fits := match front with
      | some test => test.holdsAt text place
      | none => true
    if fits then
      match first.run text (trail.goTo place) place follow with
      | (true, trail) => (true, trail)
      | (false, after) => rest.run text (after.restore looped trail.marks) place follow
    else rest.run text trail place follow
  | .span looped greed least greatest test next, trail, place, follow =>
    runSpan text looped greed least greatest test next trail place follow
  | .loop looped greed least greatest body, trail, place, follow =>
    let fuel := turnBound text least
    match greed with
    | .greedy =>
      repeatGreedy (body.run text) follow fuel least greatest none (trail.goTo place) place
    | .lazy =>
      repeatLazy looped (body.run text) follow fuel least greatest none (trail.goTo place) place
    | .possessive =>
      match repeatForGood (body.run text) fuel least greatest none (trail.goTo place) with
      | (true, trail) => follow trail trail.place
      | (false, trail) => (false, trail.goTo place)
  | .atomic body, trail, place, follow =>
    match body.run text (trail.goTo place) place settled with
    | (true, trail) => follow trail trail.place
    | (false, trail) => (false, trail.goTo place)
  | .look looped positive back body, trail, place, follow =>
    if place < back then
      if positive then (false, trail) else follow trail place
    else
      match body.run text (trail.goTo (place - back)) (place - back) settled, positive with
      | (true, trail), true => follow trail place
      | (false, after), true => (false, after)
      | (true, after), false => (false, after)
      | (false, after), false => follow (after.restore looped trail.marks) place
  | .recall index folding, trail, place, follow =>
    match trail.marks.extent? index with
    | none => (false, trail)
    | some (start, stop) =>
      if repeats folding text start place (stop - start) then follow trail (place + (stop - start))
      else (false, trail)
  | .whether index present absent, trail, place, follow =>
    match trail.marks.extent? index with
    | some _ => present.run text trail place follow
    | none => absent.run text trail place follow

/-- A group that was noted to end before it begins. -/
structure BrokenGroup where
deriving Repr, DecidableEq

def BrokenGroup.message (_ : BrokenGroup) : String :=
  "The span of capturing group is wrong, please report a bug for the re module."

/-- What a group took. -/
def Marks.taken (marks : Marks) (text : Subject) (group : Nat) :
    Except BrokenGroup (Option String) :=
  match marks.bounds? group with
  | none => .ok none
  | some (start, stop) =>
    if stop < start then .error {}
    else .ok (some (String.ofList (text.extract start stop).toList))

/-- What the groups up to `count` took. -/
def Marks.allTaken (marks : Marks) (text : Subject) (count : Nat) :
    Except BrokenGroup (List (Option String)) :=
  (List.range count).mapM fun i => marks.taken text (i + 1)

end PlaybookLint.Pattern
