import PlaybookLint.Validation
import PlaybookLint.Datum
import PlaybookLint.Decimal.Numeral
import PlaybookLint.Text.Blank
import PlaybookLint.Text.Utf8

/-!
Lenient reading of values: a flag may be written as a word or a number, a number as a text, an
integer as a number without a fraction. A text may be given by its octets, and a list of texts by
whatever gives its items in order. Paths must be texts.
-/

namespace PlaybookLint.Datum

/-- Blanks around a number written as a text, the information separators aside. -/
def isNumberPadding (c : Char) : Bool :=
  Text.isBlank c && !(28 ≤ c.toNat && c.toNat ≤ 31)

def trimNumber (s : String) : List Char :=
  ((s.toList.dropWhile isNumberPadding).reverse.dropWhile isNumberPadding).reverse

/-- A value with its octets read as a text, if they are one. -/
def decoded : Datum → Datum
  | .octets bytes =>
    match Text.Utf8.decode bytes with
    | .ok s => .text s
    | .error _ => .octets bytes
  | d => d

def asText (d : Datum) : Checked String :=
  match d.decoded with
  | .text s => .ok s
  | .octets _ => Checked.complain .notUnicode
  | _ => Checked.complain .notText

def asPathText : Datum → Checked String
  | .text s => .ok s
  | _ => Checked.complain .notPath

def trueWords : List String := ["1", "on", "t", "true", "y", "yes"]

def falseWords : List String := ["0", "off", "f", "false", "n", "no"]

/-- Integers that fit a machine word of 64 bits. -/
def isWordSized (i : Int) : Bool := -(Nat.pow 2 63 : Int) ≤ i && i < (Nat.pow 2 63 : Int)

def asFlag (d : Datum) : Checked Bool :=
  match d.decoded with
  | .flag b => .ok b
  | .integer i =>
    if i == 0 then .ok false
    else if i == 1 then .ok true
    else Checked.complain (if isWordSized i then .unknownFlag else .notFlag)
  | .decimal x =>
    match x.toInt? with
    | some 0 => .ok false
    | some 1 => .ok true
    | some i => Checked.complain (if i.natAbs < Nat.pow 2 63 then .unknownFlag else .notFlag)
    | none => Checked.complain .notFlag
  | .text s =>
    let word := String.ofList (s.toList.map Char.toLower)
    if trueWords.contains word then .ok true
    else if falseWords.contains word then .ok false
    else Checked.complain .unknownFlag
  | .octets _ => Checked.complain .unknownFlag
  | _ => Checked.complain .notFlag

/-- Removes underscores, of which none may stand at either end or next to another. -/
def stripUnderscores? (s : List Char) : Option (List Char) :=
  let rec paired : List Char → Bool
    | '_' :: '_' :: _ => true
    | _ :: rest => paired rest
    | [] => false
  if s.head? == some '_' || s.getLast? == some '_' || !s.contains '_' || paired s then none
  else some (s.filter (· != '_'))

/-- Reads a numeral: with blanks around it, or without blanks but with underscores anywhere inside. -/
def readFloat? (s : String) : Option Binary64 :=
  Numeral.float? (trimNumber s) <|> (stripUnderscores? s.toList).bind Numeral.float?

def asNumber (d : Datum) : Checked Binary64 :=
  match d.decoded with
  | .decimal x => .ok x
  | .flag b => .ok (.ofRatio false (if b then 1 else 0) 1)
  | .integer i =>
    match Binary64.ofInt? i with
    | some x => .ok x
    | none => Checked.complain .notNumber
  | .text s =>
    match readFloat? s with
    | some x => .ok x
    | none => Checked.complain .unreadableNumber
  | .octets _ => Checked.complain .unreadableNumber
  | _ => Checked.complain .notNumber

/-- A number greater than zero. -/
def asPositive (d : Datum) : Checked Binary64 :=
  d.asNumber.bind fun x => if x.isPositive then .ok x else Checked.complain .notPositive

/-- Drops further zeros and underscores after a zero or underscore `previous`. One is kept before a
point, and where nothing else is left. -/
def dropZerosAfter (previous : Char) : List Char → List Char
  | [] => [previous]
  | '0' :: rest => dropZerosAfter '0' rest
  | '_' :: rest => dropZerosAfter '_' rest
  | '.' :: rest => previous :: '.' :: rest
  | rest => rest

/-- Drops zeros at the start, and underscores among and behind them. -/
def dropLeadingZeros : List Char → List Char
  | '0' :: rest => dropZerosAfter '0' rest
  | s => s

/-- Drops a point with zeros and nothing else after it. -/
def dropZeroFraction (s : List Char) : List Char :=
  let fraction := (s.dropWhile (· != '.')).drop 1
  if !fraction.isEmpty && fraction.all (· == '0') then s.takeWhile (· != '.') else s

/-- The plain form of an integer text: no plus sign, no zeros at the start, no zero fraction and no
underscores. What follows zeros at the start may bring its own sign. -/
def plainInteger? (s : List Char) : Option (List Char) :=
  let plain (body : List Char) : List Char :=
    let short := dropZeroFraction (dropLeadingZeros body)
    (stripUnderscores? short).getD short
  match s with
  | '+' :: '-' :: _ => none
  | '+' :: body => some (plain body)
  | '-' :: body => some ('-' :: plain body)
  | body => some (plain body)

/-- The digits of a plain integer, and whether a minus sign stands before them. Of several digits the
first is no zero. -/
def signedDigits? (s : List Char) : Option (Bool × List Char) :=
  let (negative, digits) := match s with
    | '-' :: rest => (true, rest)
    | rest => (false, rest)
  match digits with
  | [] => none
  | c :: rest =>
    if digits.all Char.isDigit && (c != '0' || rest.isEmpty) then some (negative, digits) else none

/-- Reads an integer text. More digits than can be read are told apart from no digits. -/
def readInteger (s : String) : Checked Int :=
  match (plainInteger? (trimNumber s)).bind signedDigits? with
  | none => Checked.complain .unreadableInteger
  | some (negative, digits) =>
    if 4300 < digits.length then Checked.complain .integerTooLarge
    else
      let size : Int := Numeral.digitsValue digits
      .ok (if negative then -size else size)

def asInteger (d : Datum) : Checked Int :=
  match d.decoded with
  | .integer i => .ok i
  | .flag b => .ok (if b then 1 else 0)
  | .decimal x =>
    match x with
    | .finite _ _ _ =>
      match x.toInt? with
      | none => Checked.complain .fractional
      | some i => if i.natAbs < Nat.pow 2 63 then .ok i else Checked.complain .integerTooLarge
    | _ => Checked.complain .notFinite
  | .text s => readInteger s
  | .octets _ => Checked.complain .unreadableInteger
  | _ => Checked.complain .notInteger

/-- A natural number. -/
def asNatural (d : Datum) : Checked Nat :=
  d.asInteger.bind fun i => if i < 0 then Checked.complain .belowZero else .ok i.toNat

/-- A value that may be absent. -/
def asOptional {α : Type} (check : Datum → Checked α) : Datum → Checked (Option α)
  | .null => .ok none
  | d => (check d).map some

/-- Numbers a list from `n` on. -/
def placesFrom {α : Type} (n : Nat) : List (Checked α) → List (Checked α)
  | [] => []
  | x :: rest => x.under (toString n) :: placesFrom (n + 1) rest

def asTexts : Datum → Checked (List String)
  | .list items | .tuple items | .set _ items => Checked.all (placesFrom 0 (items.map asText))
  | _ => Checked.complain .notList

/-- The entries of a table that is to become a `model`. -/
def asEntries (model : String) : Datum → Checked Entries
  | .table entries => .ok entries
  | _ => Checked.complain (.notTable model)

/-- Checks the value under a key that must be there. -/
def required {α : Type} (entries : Entries) (key : String) (check : Datum → Checked α) : Checked α :=
  match entries.value? key with
  | some d => (check d).under key
  | none => (Checked.complain .missing).under key

/-- Checks the value under a key, or takes the default where there is none. -/
def defaulting {α : Type} (entries : Entries) (key : String) (default : α)
    (check : Datum → Checked α) : Checked α :=
  match entries.value? key with
  | some d => (check d).under key
  | none => .ok default

end PlaybookLint.Datum
