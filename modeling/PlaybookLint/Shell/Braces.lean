import PlaybookLint.Shell.Arithmetic

/-!
Words with braces. A list in braces stands for several words, one for each of its items; two ends with
dots between them stand for all that lies between.
-/

namespace PlaybookLint.Shell

/-- A character of a word that is not quoted, or a part of it that is left as it is. -/
inductive BraceItem where
  | char (c : Char)
  | part (p : Piece)

namespace BraceItem

def ofWord (w : Word) : List BraceItem :=
  w.flatMap fun
    | .plain s => s.map .char
    | p => [.part p]

def toWord : List BraceItem → Word
  | [] => []
  | .part p :: rest => p :: toWord rest
  | .char c :: rest =>
    match toWord rest with
    | .plain s :: more => .plain (c :: s) :: more
    | word => .plain [c] :: word

/-- The text of items that are all characters. -/
def text? : List BraceItem → Option Octets
  | [] => some []
  | .char c :: rest => (text? rest).map (c :: ·)
  | .part _ :: _ => none

/-- Splits items after an opening brace at the commas on its level, up to the brace that closes it;
`item` is the one at work, the latest first. -/
def split (depth : Nat) (item : List BraceItem) (done : List (List BraceItem)) :
    List BraceItem → Option (List (List BraceItem) × List BraceItem)
  | [] => none
  | .char '\x7b' :: rest => split (depth + 1) (.char '\x7b' :: item) done rest
  | .char '\x7d' :: rest =>
    match depth with
    | 0 => some ((item.reverse :: done).reverse, rest)
    | depth + 1 => split depth (.char '\x7d' :: item) done rest
  | .char ',' :: rest =>
    if depth == 0 then split 0 [] (item.reverse :: done) rest
    else split depth (.char ',' :: item) done rest
  | x :: rest => split depth (x :: item) done rest

/-- Splits a text at double dots. -/
def splitDots : Octets → List Octets
  | [] => [[]]
  | '.' :: '.' :: rest => [] :: splitDots rest
  | c :: rest =>
    match splitDots rest with
    | [] => [[c]]
    | piece :: pieces => (c :: piece) :: pieces

/-- A number with an optional sign and nothing else. -/
def bareNumber? (s : Octets) : Option Int :=
  let (negative, digits) := takeSign s
  if digits.isEmpty || !digits.all isDigit then none
  else some (if negative then -(digitsValue digits : Int) else digitsValue digits)

/-- The numbers from one to another by steps. -/
def countFrom (first last : Int) (step : Nat) : List Int :=
  let step := max step 1
  let n := (last - first).natAbs / step
  (List.range (n + 1)).map fun (k : Nat) =>
    if first ≤ last then first + (k * step : Nat) else first - (k * step : Nat)

/-- A number with zeros in front, if one of the ends has them. -/
def padded (width : Nat) (n : Int) : Octets :=
  let digits := numberText n.natAbs
  let sign : Octets := if n < 0 then ['-'] else []
  sign ++ List.replicate (width - sign.length - digits.length) '0' ++ digits

/-- The width that numbers between two ends are brought to. -/
def paddedWidth (a b : Octets) : Nat :=
  let bare (s : Octets) : Octets := if s.head? == some '-' then s.drop 1 else s
  let hasZero (s : Octets) : Bool := (bare s).head? == some '0' && 1 < (bare s).length
  if hasZero a || hasZero b then max a.length b.length else 0

/-- What lies between two ends. -/
def range? (s : Octets) : Option (List Octets) :=
  let between (a b : Octets) (step : Nat) : Option (List Octets) :=
    match bareNumber? a, bareNumber? b with
    | some m, some n => some ((countFrom m n step).map (padded (paddedWidth a b)))
    | _, _ =>
      match a, b with
      | [c], [d] =>
        if isLetter c && isLetter d then
          some ((countFrom c.toNat d.toNat step).map fun n => [Char.ofNat n.toNat])
        else none
      | _, _ => none
  match splitDots s with
  | [a, b] => between a b 1
  | [a, b, step] => (bareNumber? step).bind fun n => between a b n.natAbs
  | _ => none

/-- The words that items stand for. -/
def expand : Nat → List BraceItem → List (List BraceItem)
  | 0, items => [items]
  | _, [] => [[]]
  | fuel + 1, .char '\x7b' :: rest =>
    let literally := (expand fuel rest).map (.char '\x7b' :: ·)
    match split 0 [] [] rest with
    | none => literally
    | some ([item], after) =>
      match (text? item).bind range? with
      | some texts =>
        let tails := expand fuel after
        texts.flatMap fun t => tails.map (t.map .char ++ ·)
      | none => literally
    | some (items, after) =>
      let tails := expand fuel after
      (items.flatMap (expand fuel)).flatMap fun head => tails.map (head ++ ·)
  | fuel + 1, x :: rest => (expand fuel rest).map (x :: ·)

end BraceItem

/-- The words that a word with braces stands for. -/
def expandBraces (w : Word) : List Word :=
  let items := BraceItem.ofWord w
  let opens := items.any fun
    | .char '\x7b' => true
    | _ => false
  if opens then (BraceItem.expand (items.length + 1) items).map BraceItem.toWord else [w]

end PlaybookLint.Shell
