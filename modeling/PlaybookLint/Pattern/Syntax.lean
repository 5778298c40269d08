import PlaybookLint.Pattern.Flag

/-!
The syntax of search patterns as it is written, before flags take effect. A character is a code
point, so that escapes can name code points that are no characters and match nothing.
-/

namespace PlaybookLint.Pattern

/-- The three kinds of character that have an escape of their own. -/
inductive Category where
  | digit
  | space
  | word
deriving Repr, DecidableEq

/-- What stands in a bracketed set. -/
inductive SetItem where
  | code (n : Nat)
  | range (first last : Nat)
  | category (kind : Category) (negated : Bool)
deriving Repr, DecidableEq

/-- Places that take no character. -/
inductive Edge where
  | lineStart
  | lineEnd
  | textStart
  | textEnd
  | wordEdge
  | noWordEdge
deriving Repr, DecidableEq

/-- How a repetition chooses its count: the most first, the least first, or the most for good. -/
inductive Greed where
  | greedy
  | lazy
  | possessive
deriving Repr, DecidableEq

/-- Least and greatest number of characters. A least number stops one short of `Width.bound`; a
greatest one of `Width.bound` stands for any number. -/
structure Width where
  least : Nat
  greatest : Nat
deriving Repr, DecidableEq

/-- One item of a pattern as written. -/
inductive Item where
  | literal (code : Nat)
  | notLiteral (code : Nat)
  | dot
  | set (negated : Bool) (items : List SetItem)
  | edge (kind : Edge)
  | repeated (greed : Greed) (least : Nat) (greatest : Option Nat) (body : List Item)
  | group (index : Option Nat) (added removed : Flags) (body : List Item)
  | atomic (body : List Item)
  | look (ahead positive : Bool) (body : List Item)
  | choice (options : List (List Item))
  | recall (index : Nat) (width : Width)
  | conditional (index : Nat) (present : List Item) (absent : Option (List Item))
deriving Repr

namespace Width

/-- Numbers of characters are counted up to this one. -/
def bound : Nat := 4294967295

/-- The numbers as far as they are counted. -/
def capped (least greatest : Nat) : Width := ⟨min least (bound - 1), min greatest bound⟩

def empty : Width := ⟨0, 0⟩

def single : Width := ⟨1, 1⟩

def add (v w : Width) : Width := ⟨v.least + w.least, v.greatest + w.greatest⟩

def either (v w : Width) : Width := ⟨min v.least w.least, max v.greatest w.greatest⟩

/-- The width of something repeated; no greatest count means any. -/
def repeated (w : Width) (least : Nat) (greatest : Option Nat) : Width :=
  ⟨w.least * least, w.greatest * greatest.getD bound⟩

/-- Can exactly one number of characters be taken? -/
def isFixed (w : Width) : Bool := w.least == w.greatest

end Width

mutual

/-- How many characters an item can take. -/
def Item.width : Item → Width
  | .literal _ | .notLiteral _ | .dot | .set _ _ => .single
  | .edge _ | .look _ _ _ => .empty
  | .repeated _ least greatest body => (Item.widthOfAll body).repeated least greatest
  | .group _ _ _ body | .atomic body => Item.widthOfAll body
  | .choice options => Item.widthOfChoice options
  | .recall _ width => width
  | .conditional _ present absent =>
    match absent with
    | none => ⟨0, (Item.widthOfAll present).greatest⟩
    | some other => (Item.widthOfAll present).either (Item.widthOfAll other)

/-- How many characters items in sequence can take, before that is capped. -/
def Item.widthSum : List Item → Width
  | [] => .empty
  | item :: rest => (Item.width item).add (Item.widthSum rest)

/-- How many characters items in sequence can take. -/
def Item.widthOfAll (items : List Item) : Width :=
  let total := Item.widthSum items
  Width.capped total.least total.greatest

/-- How many characters one of several options can take. -/
def Item.widthOfChoice : List (List Item) → Width
  | [] => ⟨Width.bound - 1, 0⟩
  | option :: rest => (Item.widthOfAll option).either (Item.widthOfChoice rest)

end

mutual

/-- How deep calls nest while the width of an item is measured. A group with a number has been measured
when it was closed. -/
def Item.widthDepth : Item → Nat
  | .repeated _ _ _ body | .atomic body => Item.widthDepthOfAll body
  | .group none _ _ body => Item.widthDepthOfAll body
  | .group (some _) _ _ _ => 1
  | .choice options => Item.widthDepthOfChoice options
  | .conditional _ present absent =>
    match absent with
    | none => Item.widthDepthOfAll present
    | some other => max (Item.widthDepthOfAll present) (Item.widthDepthOfAll other)
  | _ => 0

/-- How deep calls nest while the width of items in sequence is measured: one call more than for the
deepest of the items. -/
def Item.widthDepthOfAll : List Item → Nat
  | [] => 1
  | item :: rest => max (Item.widthDepth item + 1) (Item.widthDepthOfAll rest)

/-- The deepest of several options. -/
def Item.widthDepthOfChoice : List (List Item) → Nat
  | [] => 0
  | option :: rest => max (Item.widthDepthOfAll option) (Item.widthDepthOfChoice rest)

end

/-! ### Simpler forms -/

namespace Item

/-- Are two items the same item without parts? -/
def isSameLeaf : Item → Item → Bool
  | .literal m, .literal n => m == n
  | .notLiteral m, .notLiteral n => m == n
  | .dot, .dot => true
  | .set negated items, .set negated' items' => negated == negated' && items == items'
  | .edge kind, .edge kind' => kind == kind'
  | .recall index _, .recall index' _ => index == index'
  | _, _ => false

/-- The first items that all options share, and the options without them. -/
def sharedFront : List Item → List (List Item) → List Item × List (List Item)
  | [], others => ([], [] :: others)
  | item :: rest, others =>
    let startsAlike (option : List Item) : Bool :=
      match option with
      | [] => false
      | other :: _ => item.isSameLeaf other
    if others.all startsAlike then
      let (front, options) := sharedFront rest (others.map List.tail)
      (item :: front, options)
    else ([], (item :: rest) :: others)

/-- What a set would hold in place of an option that takes one character. -/
def asSetItems? : List Item → Option (List SetItem)
  | [.literal n] => some [.code n]
  | [.set false items] => some items
  | _ => none

/-- Several options as items in sequence: what all begin with stands in front, and options of single
characters become a set. One option stands for itself. -/
def ofOptions : List (List Item) → List Item
  | [] => []
  | [option] => option
  | first :: others =>
    let (front, options) := sharedFront first others
    match options.mapM asSetItems? with
    | some sets => front ++ [.set false sets.flatten.eraseDups]
    | none => front ++ [.choice options]

/-- A group that neither captures nor changes flags stands for what it holds. -/
def unpacked : Item → List Item
  | .group none added removed body =>
    if added.isEmpty && removed.isEmpty then body else [.group none added removed body]
  | item => [item]

end Item

end PlaybookLint.Pattern
