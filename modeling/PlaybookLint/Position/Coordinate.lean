import PlaybookLint.Position

/-!
Positions from coordinates that are values of any kind. Numbers can be added, a flag counting as one
or zero; what comes of that is checked as the line and the column of a position are.
-/

namespace PlaybookLint

/-- Why coordinates give no position or range. -/
inductive CoordinateFault where
  /-- The sign stands between values of two kinds that it cannot join. -/
  | cannotJoin (sign kind other : String)
  /-- A text was to be joined with what is none. -/
  | joinedToText (kind : String)
  /-- An integer is too large to be added to a number with a fraction. -/
  | tooLarge
  | invalid (report : ProblemReport)
deriving Repr, DecidableEq

def CoordinateFault.message : CoordinateFault → String
  | .cannotJoin sign kind other =>
    s!"unsupported operand type(s) for {sign}: '{kind}' and '{other}'"
  | .joinedToText kind => s!"can only concatenate str (not \"{kind}\") to str"
  | .tooLarge => "int too large to convert to float"
  | .invalid report => report.text

namespace Datum

/-- The integer that a value counts as. -/
def asCount? : Datum → Option Int
  | .integer i => some i
  | .flag b => some (if b then 1 else 0)
  | _ => none

/-- An integer as a number with a fraction. -/
def widen (i : Int) : Except CoordinateFault Binary64 :=
  match Binary64.ofInt? i with
  | some x => .ok x
  | none => .error .tooLarge

/-- Two values joined by a plus sign: numbers are added, texts are put together. -/
def joined (d e : Datum) : Except CoordinateFault Datum :=
  match d, e, d.asCount?, e.asCount? with
  | _, _, some i, some j => .ok (.integer (i + j))
  | .decimal x, .decimal y, _, _ => .ok (.decimal (x.plus y))
  | .decimal x, _, _, some j => (widen j).map fun y => .decimal (x.plus y)
  | _, .decimal y, some i, _ => (widen i).map fun x => .decimal (x.plus y)
  | .text s, .text t, _, _ => .ok (.text (s ++ t))
  | .text _, _, _, _ => .error (.joinedToText e.kindName)
  | _, _, _, _ => .error (.cannotJoin "+" d.kindName e.kindName)

/-- A coordinate counted from one as it is counted from zero; it does not fall below zero. -/
def fromZero (d : Datum) : Except CoordinateFault Datum :=
  match d.asCount?, d with
  | some i, _ => .ok (.integer (max (i - 1) 0))
  | none, .decimal x => do
    let moved := x.plus (← widen (-1))
    return if moved.isNegative then .integer 0 else .decimal moved
  | none, _ => .error (.cannotJoin "-" d.kindName "int")

end Datum

namespace Position

/-- The position of a line and a column counted from zero. -/
def ofCoordinates (line column : Datum) : Except CoordinateFault Position :=
  ((check line column).report "Position").mapError .invalid

/-- The position of a line and a column counted from one. -/
def ofReported (line column : Datum) : Except CoordinateFault Position := do
  let line ← line.fromZero
  let column ← column.fromZero
  ofCoordinates line column

end Position

namespace Range

/-- The range of `width` columns from a line and a column on, counted from zero. -/
def onLine (line column width : Datum) : Except CoordinateFault Range := do
  let start ← Position.ofCoordinates line column
  let stop ← Position.ofCoordinates line (← column.joined width)
  ((between start stop).report "Range").mapError .invalid

/-- The range of one column at a line and a column counted from one. A column that counts as false
is the first. -/
def ofReported (line column : Datum) : Except CoordinateFault Range := do
  let start ← Position.ofReported line (if column.isOn then column else .integer 1)
  return oneColumn start

end Range

end PlaybookLint
