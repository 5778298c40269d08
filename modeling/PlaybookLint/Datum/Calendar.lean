/-!
Dates and times of day as they are written, without any arithmetic on them.
-/

namespace PlaybookLint

structure CalendarDate where
  year : Nat
  month : Nat
  day : Nat
deriving Repr, DecidableEq

/-- A time of day to the millionth of a second. -/
structure TimeOfDay where
  hour : Nat
  minute : Nat
  second : Nat
  millionths : Nat
deriving Repr, DecidableEq

/-- A date with a time of day and, if known, the minutes by which it is ahead of universal time. -/
structure Moment where
  date : CalendarDate
  time : TimeOfDay
  offset : Option Int
deriving Repr, DecidableEq

/-- A natural with at least `width` digits. -/
def padded (width n : Nat) : String :=
  let digits := Nat.toDigits 10 n
  String.ofList (List.replicate (width - digits.length) '0' ++ digits)

namespace CalendarDate

def isLeap (year : Nat) : Bool := (year % 4 == 0 && year % 100 != 0) || year % 400 == 0

def daysIn (year month : Nat) : Nat :=
  if month == 2 then (if isLeap year then 29 else 28)
  else if month == 4 || month == 6 || month == 9 || month == 11 then 30
  else 31

/-- The date, if the calendar has it. -/
def ofParts? (year month day : Nat) : Option CalendarDate :=
  if 1 ≤ year && 1 ≤ month && month ≤ 12 && 1 ≤ day && day ≤ daysIn year month then
    some ⟨year, month, day⟩
  else none

def text (d : CalendarDate) : String :=
  padded 4 d.year ++ "-" ++ padded 2 d.month ++ "-" ++ padded 2 d.day

end CalendarDate

namespace TimeOfDay

def text (t : TimeOfDay) : String :=
  let clock := padded 2 t.hour ++ ":" ++ padded 2 t.minute ++ ":" ++ padded 2 t.second
  if t.millionths == 0 then clock else clock ++ "." ++ padded 6 t.millionths

end TimeOfDay

namespace Moment

def offsetText : Option Int → String
  | none => ""
  | some minutes =>
    (if minutes < 0 then "-" else "+")
      ++ padded 2 (minutes.natAbs / 60) ++ ":" ++ padded 2 (minutes.natAbs % 60)

/-- The date and the time with `between` them. -/
def textWith (between : String) (m : Moment) : String :=
  m.date.text ++ between ++ m.time.text ++ offsetText m.offset

end Moment

end PlaybookLint
