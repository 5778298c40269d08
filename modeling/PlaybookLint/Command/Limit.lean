import PlaybookLint.Datum
import PlaybookLint.Decimal.Shortest

/-!
Time limits. A limit is a number of seconds. What waits for output can wait only as long as the
system can count thousandths of a second.
-/

namespace PlaybookLint.Command

/-- Why a time limit cannot be kept. -/
inductive LimitFault where
  | notNumber (kind : String)
  | tooLarge
  | endless
  | beyondTime
  | tooLong
deriving Repr, DecidableEq

def LimitFault.message : LimitFault → String
  | .notNumber kind => s!"unsupported operand type(s) for +: 'float' and '{kind}'"
  | .tooLarge => "int too large to convert to float"
  | .endless => "cannot convert float infinity to integer"
  | .beyondTime => "timestamp too large to convert to C _PyTime_t"
  | .tooLong => "timeout is too large"

/-- The number of seconds that a value stands for; nothing is no limit. -/
def limitOf : Datum → Except LimitFault (Option Binary64)
  | .null => .ok none
  | .decimal x => .ok (some x)
  | .flag b => .ok (some (.ofRatio false (if b then 1 else 0) 1))
  | .integer i =>
    match Binary64.ofInt? i with
    | some x => .ok (some x)
    | none => .error .tooLarge
  | other => .error (.notNumber other.kindName)

/-- The limit in whole thousandths of a second; one below zero is zero. -/
def thousandths (x : Binary64) : Option Nat := ((x.times 1000).truncate?).map Int.toNat

/-- The longest time that output can be waited for, and the longest that can be counted. -/
def waitLimit : Nat := 2147483647

def clockLimit : Nat := 9223372036854

/-- The limit in thousandths of a second that have at least begun. Less than a hundredth of one does
not count, for that much is gone by the time that the waiting begins. -/
def begunThousandths (x : Binary64) : Option Nat :=
  ((x.times 100000).truncate?).map fun i => (i.toNat + 99) / 100

/-- The thousandths of a second for which output is waited for. -/
def waitFor (x : Binary64) : Except LimitFault Nat :=
  match thousandths x with
  | none => .error .endless
  | some ms =>
    let begun := (begunThousandths x).getD ms
    if clockLimit < begun then .error .beyondTime
    else if waitLimit < begun then .error .tooLong
    else .ok ms

/-- The limit as it is told; one that is nothing is told as zero. -/
def told : Datum → Datum
  | .null | .flag false | .integer 0 => .decimal (.zero false)
  | .decimal x => .decimal (if x.isPositive || x.isNegative then x else .zero false)
  | d => d

/-- The limit in seconds with one place. -/
def seconds : Datum → String
  | .decimal x => x.onePlace
  | .integer i => ((Binary64.ofInt? i).getD (.zero false)).onePlace
  | .flag b => if b then "1.0" else "0.0"
  | _ => ""

end PlaybookLint.Command
