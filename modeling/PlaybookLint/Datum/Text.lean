import PlaybookLint.Datum
import PlaybookLint.Text.DecimalDigit
import PlaybookLint.Text.Quoted

/-!
Values written out inside a text. A text on its own stands as it is; inside a list or a table it is
quoted. An integer of more digits than the limit cannot be written out.
-/

namespace PlaybookLint

def flagText (b : Bool) : String := if b then "True" else "False"

/-- The numbers of a time, seconds and millionths only as far as needed. -/
def TimeOfDay.numbers (t : TimeOfDay) : List Nat :=
  if t.millionths != 0 then [t.hour, t.minute, t.second, t.millionths]
  else if t.second != 0 then [t.hour, t.minute, t.second]
  else [t.hour, t.minute]

/-- Numbers between parentheses after a name, with a last part that may be empty. -/
def shownCall (name : String) (numbers : List Nat) (last : String) : String :=
  name ++ "(" ++ ", ".intercalate (numbers.map toString) ++ last ++ ")"

/-- A fixed distance from universal time, as a part of a shown moment. -/
def shownOffset : Option Int → String
  | none => ""
  | some 0 => ", tzinfo=datetime.timezone.utc"
  | some minutes =>
    let seconds := minutes * 60
    let span :=
      if minutes < 0 then s!"days=-1, seconds={seconds + 86400}" else s!"seconds={seconds}"
    s!", tzinfo=datetime.timezone(datetime.timedelta({span}))"

def CalendarDate.shown (d : CalendarDate) : String :=
  shownCall "datetime.date" [d.year, d.month, d.day] ""

def TimeOfDay.shown (t : TimeOfDay) : String := shownCall "datetime.time" t.numbers ""

def Moment.shown (m : Moment) : String :=
  shownCall "datetime.datetime" ([m.date.year, m.date.month, m.date.day] ++ m.time.numbers)
    (shownOffset m.offset)

/-- How an octet stands inside quotes of the kind `quote`. -/
def quotedOctet (quote : Char) (octet : UInt8) : List Char :=
  if octet.toNat < 128 then Text.quotedChar quote (Char.ofNat octet.toNat)
  else '\\' :: 'x' :: Text.hexDigits 2 octet.toNat

/-- The quoted form of octets. -/
def shownOctets (octets : List UInt8) : String :=
  let quote := Text.quoteFor (octets.map fun octet => Char.ofNat octet.toNat)
  String.ofList ('b' :: quote :: octets.flatMap (quotedOctet quote) ++ [quote])

namespace Datum

mutual

/-- A value as it stands inside a list or a table. -/
def shown : Datum → String
  | .null => "None"
  | .flag b => flagText b
  | .integer i => toString i
  | .decimal x => x.shortest
  | .text s => Text.quoted s
  | .octets bytes => shownOctets bytes
  | .list items => "[" ++ shownItems items ++ "]"
  | .tuple [item] => "(" ++ shown item ++ ",)"
  | .tuple items => "(" ++ shownItems items ++ ")"
  | .set false [] => "set()"
  | .set true [] => "frozenset()"
  | .set false items => "\x7b" ++ shownItems items ++ "\x7d"
  | .set true items => "frozenset(\x7b" ++ shownItems items ++ "\x7d)"
  | .table entries => "\x7b" ++ shownEntries entries ++ "\x7d"
  | .date d => d.shown
  | .time t => t.shown
  | .moment m => m.shown

def shownItems : List Datum → String
  | [] => ""
  | [item] => shown item
  | item :: rest => shown item ++ ", " ++ shownItems rest

def shownEntries : List (String × Datum) → String
  | [] => ""
  | [(key, value)] => Text.quoted key ++ ": " ++ shown value
  | (key, value) :: rest =>
    Text.quoted key ++ ": " ++ shown value ++ ", " ++ shownEntries rest

end

/-- A value on its own. -/
def plain : Datum → String
  | .text s => s
  | .date d => d.text
  | .time t => t.text
  | .moment m => m.textWith " "
  | other => shown other

mutual

/-- Does a value hold an integer of too many digits to be written out? -/
def isTooLong : Datum → Bool
  | .integer i => 10 ^ Text.digitLimit ≤ i.natAbs
  | .list items | .tuple items | .set _ items => areTooLong items
  | .table entries => hasTooLong entries
  | _ => false

def areTooLong : List Datum → Bool
  | [] => false
  | item :: rest => isTooLong item || areTooLong rest

def hasTooLong : List (String × Datum) → Bool
  | [] => false
  | (_, value) :: rest => isTooLong value || hasTooLong rest

end

/-- Why a value cannot be written out. -/
inductive Obstacle where
  /-- An integer has too many digits. -/
  | tooLong
  /-- Values stand inside values deeper than calls may nest. -/
  | tooDeep
deriving Repr, DecidableEq

mutual

/-- What stands in the way first when a value is written out and that many calls may be nested. -/
def obstacle? : Datum → Nat → Option Obstacle
  | _, 0 => some .tooDeep
  | .integer i, _ + 1 => if isTooLong (.integer i) then some .tooLong else none
  | .list items, room + 1 | .tuple items, room + 1 | .set _ items, room + 1 => obstacleIn? items room
  | .table entries, room + 1 => obstacleAmong? entries room
  | _, _ + 1 => none

def obstacleIn? : List Datum → Nat → Option Obstacle
  | [], _ => none
  | item :: rest, room => (obstacle? item room).or (obstacleIn? rest room)

def obstacleAmong? : List (String × Datum) → Nat → Option Obstacle
  | [], _ => none
  | (_, value) :: rest, room => (obstacle? value room).or (obstacleAmong? rest room)

end

/-- What stands in the way first when several values are written out, each on its own. -/
def firstObstacle? (room : Nat) : List Datum → Option Obstacle
  | [] => none
  | .text _ :: rest => firstObstacle? room rest
  | item :: rest => (item.obstacle? room).or (firstObstacle? room rest)

end Datum

end PlaybookLint
