import PlaybookLint.Toml.Scan
import PlaybookLint.Datum
import PlaybookLint.Decimal.Numeral

/-!
Numbers, dates and times of a document. Each reader takes the longest prefix of its form and leaves
the rest; none means that no prefix has the form.
-/

namespace PlaybookLint.Toml

/-- Digits of a base, single underscores between them left out, and what follows. -/
def digitsOf (isDigit : Char → Bool) : List Char → List Char × List Char
  | [] => ([], [])
  | '_' :: c :: rest =>
    if isDigit c then
      let (digits, after) := digitsOf isDigit rest
      (c :: digits, after)
    else ([], '_' :: c :: rest)
  | c :: rest =>
    if isDigit c then
      let (digits, after) := digitsOf isDigit rest
      (c :: digits, after)
    else ([], c :: rest)

/-- Digits of a base, the first not behind an underscore; at least one. -/
def digits? (isDigit : Char → Bool) : List Char → Option (List Char × List Char)
  | [] => none
  | c :: rest => if isDigit c then some (digitsOf isDigit (c :: rest)) else none

def isHexDigit (c : Char) : Bool :=
  c.isDigit || ('a' ≤ c && c ≤ 'f') || ('A' ≤ c && c ≤ 'F')

def isOctalDigit (c : Char) : Bool := '0' ≤ c && c ≤ '7'

def isBinaryDigit (c : Char) : Bool := c == '0' || c == '1'

def digitValue (c : Char) : Nat :=
  if c.isDigit then c.toNat - '0'.toNat
  else if 'a' ≤ c then c.toNat - 'a'.toNat + 10
  else c.toNat - 'A'.toNat + 10

def numberIn (base : Nat) (digits : List Char) : Nat :=
  digits.foldl (fun total c => total * base + digitValue c) 0

/-- An integer whose base is named in front of its digits. -/
def prefixed? : List Char → Option (Nat × List Char)
  | '0' :: 'x' :: rest => (digits? isHexDigit rest).map fun (ds, rest) => (numberIn 16 ds, rest)
  | '0' :: 'b' :: rest => (digits? isBinaryDigit rest).map fun (ds, rest) => (numberIn 2 ds, rest)
  | '0' :: 'o' :: rest => (digits? isOctalDigit rest).map fun (ds, rest) => (numberIn 8 ds, rest)
  | _ => none

/-- The digits before the point: a lone zero, or digits that do not begin with zero. -/
def whole? : List Char → Option (List Char × List Char)
  | '0' :: rest => some (['0'], rest)
  | rest => digits? Char.isDigit rest

/-- The digits after a point, if there are any. -/
def fraction (s : List Char) : List Char × List Char :=
  match s with
  | '.' :: rest => (digits? Char.isDigit rest).getD ([], s)
  | _ => ([], s)

/-- An exponent, if there is one. -/
def exponent (s : List Char) : Option Int × List Char :=
  match s with
  | e :: rest =>
    if e == 'e' || e == 'E' then
      let (negative, digits) := Numeral.takeSign rest
      match digits? Char.isDigit digits with
      | some (ds, after) =>
        let size : Int := numberIn 10 ds
        (some (if negative then -size else size), after)
      | none => (none, s)
    else (none, s)
  | [] => (none, s)

/-- A decimal integer or a number with a fraction or an exponent. -/
def decimal? (s : List Char) : Option (Except Text.TooManyDigits Datum × List Char) := do
  let (negative, body) := Numeral.takeSign s
  let (ds, rest) ← whole? body
  let (places, rest) := fraction rest
  let (power, rest) := exponent rest
  if places.isEmpty && power.isNone then
    let value := (Text.readNumber ds).map fun size : Nat =>
      Datum.integer (if negative then -(size : Int) else size)
    return (value, rest)
  else
    let x := Numeral.nearest negative (ds ++ places) (power.getD 0 - places.length)
    return (.ok (.decimal x), rest)

/-- Words for numbers that have no digits. -/
def specialNumbers : List (String × Binary64) :=
  [("inf", .infinite false), ("nan", .notANumber), ("-inf", .infinite true),
   ("+inf", .infinite false), ("-nan", .notANumber), ("+nan", .notANumber)]

def special? (s : List Char) : Option (Binary64 × List Char) :=
  (specialNumbers.find? fun (word, _) => word.toList.isPrefixOf s).map
    fun (word, x) => (x, s.drop word.length)

/-- A fixed number of decimal digits, as a number. -/
def fixed? (count : Nat) (s : List Char) : Option (Nat × List Char) :=
  let ds := s.take count
  if ds.length == count && ds.all Char.isDigit then some (numberIn 10 ds, s.drop count) else none

/-- Two digits that stand for a number from `least` to `greatest`. -/
def twoDigits? (least greatest : Nat) (s : List Char) : Option (Nat × List Char) :=
  (fixed? 2 s).filter fun (n, _) => least ≤ n && n ≤ greatest

/-- What follows the character `c`. -/
def after? (c : Char) : List Char → Option (List Char)
  | [] => none
  | d :: rest => if c == d then some rest else none

/-- Six digits after a point stand for millionths; further ones are dropped. -/
def millionths (s : List Char) : Nat × List Char :=
  match s with
  | '.' :: rest =>
    let ds := rest.takeWhile Char.isDigit
    if ds.isEmpty then (0, s)
    else
      let six := ds.take 6
      (numberIn 10 (six ++ List.replicate (6 - six.length) '0'), rest.dropWhile Char.isDigit)
  | _ => (0, s)

/-- A time of day. -/
def time? (s : List Char) : Option (TimeOfDay × List Char) := do
  let (hour, s) ← twoDigits? 0 23 s
  let s ← after? ':' s
  let (minute, s) ← twoDigits? 0 59 s
  let s ← after? ':' s
  let (second, s) ← twoDigits? 0 59 s
  let (part, s) := millionths s
  return (⟨hour, minute, second, part⟩, s)

/-- How far a time is ahead of universal time, in minutes, if it is told. -/
def offset (s : List Char) : Option Int × List Char :=
  match s with
  | c :: rest =>
    if c == 'Z' || c == 'z' then (some 0, rest)
    else if c == '+' || c == '-' then
      let read : Option (Nat × List Char) := do
        let (hours, rest) ← twoDigits? 0 23 rest
        let rest ← after? ':' rest
        let (minutes, rest) ← twoDigits? 0 59 rest
        return (hours * 60 + minutes, rest)
      match read with
      | some (n, rest) => (some (if c == '-' then -(n : Int) else n), rest)
      | none => (none, s)
    else (none, s)
  | [] => (none, s)

/-- The time behind a date, if there is one. -/
def timeAfterDate? : List Char → Option (TimeOfDay × Option Int × List Char)
  | c :: rest =>
    if c == 'T' || c == 't' || c == ' ' then
      (time? rest).map fun (t, rest) =>
        let (ahead, rest) := offset rest
        (t, ahead, rest)
    else none
  | [] => none

/-- A date, alone or with a time; a date that the calendar does not have is nothing. -/
def date? (s : List Char) : Option (Option Datum × List Char) := do
  let (year, s) ← fixed? 4 s
  let s ← after? '-' s
  let (month, s) ← twoDigits? 1 12 s
  let s ← after? '-' s
  let (day, s) ← twoDigits? 1 31 s
  let date := CalendarDate.ofParts? year month day
  match timeAfterDate? s with
  | some (t, ahead, rest) => return (date.map fun d => .moment ⟨d, t, ahead⟩, rest)
  | none => return (date.map .date, s)

/-- Reads a date, a time or a number. -/
def Scan.scalar : Scan Datum := do
  let text ← get
  match date? text with
  | some (some d, rest) =>
    set rest
    return d
  | some (none, _) => refuse .badDate
  | none =>
    match time? text with
    | some (t, rest) =>
      set rest
      return .time t
    | none =>
      match prefixed? text with
      | some (n, rest) =>
        set rest
        return .integer n
      | none =>
        match decimal? text with
        | some (.ok d, rest) =>
          set rest
          return d
        | some (.error refusal, _) => throw (.number refusal)
        | none =>
          match special? text with
          | some (x, rest) =>
            set rest
            return .decimal x
          | none => refuse .badValue

end PlaybookLint.Toml
