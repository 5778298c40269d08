import PlaybookLint.Pattern.Syntax
import PlaybookLint.Text.LetterCase
import PlaybookLint.Text.DecimalDigit
import PlaybookLint.Text.Blank

/-!
Tests on one character. Where case is ignored, a character is looked at in its lower-case form; a set
is only looked at that way if it holds a letter that has more than one case, or reaches beyond the
characters that have four hexadecimal digits.
-/

namespace PlaybookLint.Pattern

/-- How characters are compared: exactly, or without regard to case among ASCII letters or among the
letters of every script. -/
inductive Folding where
  | exact
  | ascii
  | everyScript
deriving Repr, DecidableEq

namespace Folding

def lower : Folding → Nat → Nat
  | .exact, n => n
  | .ascii, n => Text.asciiLowerCode n
  | .everyScript, n => Text.lowerCode n

def isCased : Folding → Nat → Bool
  | .exact, _ => false
  | .ascii, n => Text.isAsciiLetterCode n
  | .everyScript, n => Text.isCasedCode n

/-- The lower-case letters that match the lower-case letter `n`, other than itself. -/
def twins : Folding → Nat → List Nat
  | .everyScript, n => Text.caseTwinsOf n
  | _, _ => []

/-- The code points whose lower-case form is `n`. -/
def sources : Folding → Nat → List Nat
  | .exact, n => [n]
  | .ascii, n =>
    (if Text.asciiLowerCode n == n then [n] else [])
      ++ (if 0x61 ≤ n && n ≤ 0x7a then [n - 0x20] else [])
  | .everyScript, n =>
    let capitals := Text.caseRuns.filterMap fun run =>
      let m := (Int.ofNat n - run.shift).toNat
      if Text.lowerCode m == n && run.first ≤ m && m ≤ run.last then some m else none
    (if Text.lowerCode n == n then [n] else [])
      ++ (if 0x61 ≤ n && n ≤ 0x7a then [n - 0x20] else []) ++ capitals

/-- Does some code point from `first` to `last` have more than one case? -/
def anyCased (folding : Folding) (first last : Nat) : Bool :=
  let meets (range : Nat × Nat) : Bool := first ≤ range.2 && range.1 ≤ last
  match folding with
  | .exact => false
  | .ascii => meets (0x41, 0x5a) || meets (0x61, 0x7a)
  | .everyScript =>
    meets (0x41, 0x5a) || meets (0x61, 0x7a) || Text.casedRanges.any meets

end Folding

/-- The folding that flags ask for. -/
def Flags.folding (f : Flags) : Folding :=
  if !f.ignoreCase then .exact else if f.ascii then .ascii else .everyScript

/-- Is the character of the kind, among ASCII characters or among all? -/
def Category.holds (kind : Category) (ascii : Bool) (n : Nat) : Bool :=
  let c := Char.ofNat n
  if ascii && 0x80 ≤ n then false
  else
    match kind with
    | .digit => Text.isDecimalDigit c
    | .space => if ascii then n == 32 || (9 ≤ n && n ≤ 13) else Text.isBlank c
    | .word => Text.isWord c

/-- A test on one character: any, any but a line feed, one character as it stands or by its
lower-case form, a set of characters as they stand or by their lower-case forms. -/
inductive CharTest where
  | anything
  | notLineFeed
  | code (negated : Bool) (n : Nat)
  | folded (folding : Folding) (negated : Bool) (n : Nat)
  | set (negated ascii : Bool) (items : List SetItem)
  | foldedSet (folding : Folding) (negated ascii : Bool) (items : List SetItem)
deriving Repr, DecidableEq

namespace CharTest

/-- The last code point with four hexadecimal digits. -/
def lastPlain : Nat := 0xffff

/-- Does an element of a set hold the code point as it stands? -/
def holdsExactly (ascii : Bool) (n : Nat) : SetItem → Bool
  | .code m => n == m
  | .range first last => first ≤ n && n ≤ last
  | .category kind negated => kind.holds ascii n != negated

/-- Does an element of a set hold a code point that matches the lower-case one `low`? A single
character beyond `lastPlain` stands for itself alone. A range that reaches beyond it also holds what
it holds as it stands or in upper case. -/
def holdsFolded (ascii : Bool) (folding : Folding) (low : Nat) : SetItem → Bool
  | .code m =>
    let wanted := folding.lower m
    if lastPlain < wanted then low == m
    else low == wanted || (folding.twins wanted).contains low
  | .range first last =>
    let among (n : Nat) : Bool := first ≤ n && n ≤ last
    ((low :: folding.twins low).any fun n =>
      (folding.sources n).any fun m => among m && m ≤ lastPlain)
      || (lastPlain < last && (among low || among (Text.upperCode low)))
  | .category kind negated => kind.holds ascii low != negated

/-- Does an element make its set a matter of case? -/
def concernsCase (folding : Folding) : SetItem → Bool
  | .code m => folding.isCased m || lastPlain < folding.lower m
  | .range first last => folding.anyCased first last || lastPlain < last
  | .category _ _ => false

/-- Does the character pass the test? -/
def accepts (test : CharTest) (c : Char) : Bool :=
  let n := c.toNat
  match test with
  | .anything => true
  | .notLineFeed => c != '\n'
  | .code negated wanted => (n == wanted) != negated
  | .folded folding negated wanted => (folding.lower n == wanted) != negated
  | .set negated ascii items => items.any (holdsExactly ascii n) != negated
  | .foldedSet folding negated ascii items =>
    items.any (holdsFolded ascii folding (folding.lower n)) != negated

/-- Is one wanted character compared as it stands? -/
def exactCode? : CharTest → Option Nat
  | .code false n => some n
  | _ => none

/-- Can the test tell at once, as it stands, that an option cannot begin with a character? -/
def isExact : CharTest → Bool
  | .code false _ | .set _ _ _ => true
  | _ => false

/-- Is a set looked at by lower-case forms? -/
def isFoldedSet : CharTest → Bool
  | .foldedSet _ _ _ _ => true
  | _ => false

/-- The test for a character, or for any other one. -/
def ofCode (f : Flags) (negated : Bool) (n : Nat) : CharTest :=
  if f.folding.isCased n then
    let low := f.folding.lower n
    if (f.folding.twins low).isEmpty then .folded f.folding negated low
    else .foldedSet f.folding negated f.ascii [.code low]
  else .code negated n

/-- The test for a set. -/
def ofSet (f : Flags) (negated : Bool) (items : List SetItem) : CharTest :=
  if f.ignoreCase && items.any (concernsCase f.folding) then
    .foldedSet f.folding negated f.ascii items
  else .set negated f.ascii items

end CharTest

/-- The test of an item that takes one character. -/
def Item.charTest? (f : Flags) : Item → Option CharTest
  | .literal n => some (.ofCode f false n)
  | .notLiteral n => some (.ofCode f true n)
  | .dot => some (if f.dotAll then .anything else .notLineFeed)
  | .set negated items => some (.ofSet f negated items)
  | _ => none

end PlaybookLint.Pattern
