import PlaybookLint.Decimal.Binary64

/-!
Decimal texts of floating-point numbers. The shortest text has the fewest digits that read back as
the same number, and of those the digits nearest to it; positional notation is used from a ten
thousandth up to ten to the sixteenth. Fixed places round the exact value, a tie to the even digit.
-/

namespace PlaybookLint.Binary64

/-- The quotient `num / den` in units of ten to the `power`, as a quotient of naturals. -/
def inTens (num den : Nat) (power : Int) : Nat × Nat :=
  if 0 ≤ power then (num, den * Nat.pow 10 power.toNat) else (num * Nat.pow 10 (-power).toNat, den)

/-- The greatest `k` such that ten to the `k` is at most `num / den`. -/
def floorLog10 (num den : Nat) : Int :=
  let guess : Int := (floorLog2 num den * 30103) / 100000
  let reached (k : Int) : Bool :=
    let (n, d) := inTens num den k
    d ≤ n
  if reached (guess + 1) then guess + 1 else if reached guess then guess else guess - 1

/-- The number nearest to `digits` times ten to the `power`. -/
def ofTens (negative : Bool) (digits : Nat) (power : Int) : Binary64 :=
  if 0 ≤ power then ofRatio negative (digits * Nat.pow 10 power.toNat) 1
  else ofRatio negative digits (Nat.pow 10 (-power).toNat)

/-- Of the two neighbours of `num / den` on the grid of ten to the `power`, those that read back as
`x`, the nearer if both do and the even one if they are equally near. -/
def neighbour? (x : Binary64) (num den : Nat) (power : Int) : Option Nat :=
  let (n, d) := inTens num den power
  let lower := n / d
  let hits (digits : Nat) : Bool := ofTens false digits power == x
  match hits lower, hits (lower + 1) with
  | true, true => some (roundDiv n d)
  | true, false => some lower
  | false, true => some (lower + 1)
  | false, false => none

/-- Tries grids with more and more digits; `count` is how many grids are left. -/
def searchDigits (x : Binary64) (num den : Nat) (top : Int) : Nat → Nat → Nat × Int
  | 0, used => (0, top - used)
  | count + 1, used =>
    let power := top - used
    match neighbour? x num den power with
    | some digits => (digits, power)
    | none => searchDigits x num den top count (used + 1)

/-- Drops the zeros at the end of a number and counts them into the power of ten. -/
def dropZeros : Nat → Nat → Int → Nat × Int
  | 0, digits, power => (digits, power)
  | fuel + 1, digits, power =>
    if digits != 0 && digits % 10 == 0 then dropZeros fuel (digits / 10) (power + 1)
    else (digits, power)

/-- The fewest decimal digits that read back as the positive number, with their power of ten. -/
def shortestDigits (mantissa : Nat) (exponent : Int) : Nat × Int :=
  let (num, den) := ratio mantissa exponent
  let (digits, power) :=
    searchDigits (.finite false mantissa exponent) num den (floorLog10 num den) 18 0
  dropZeros 20 digits power

/-- The digits of a natural in base ten. -/
def digitText (n : Nat) : List Char := Nat.toDigits 10 n

/-- An exponent with a sign and at least two digits. -/
def exponentText (e : Int) : List Char :=
  let digits := digitText e.natAbs
  'e' :: (if e < 0 then '-' else '+') :: (if digits.length < 2 then '0' :: digits else digits)

/-- Lays out digits whose point stands after the first `point` of them. -/
def layOut (digits : List Char) (point : Int) : List Char :=
  if point < -3 || 16 < point then
    match digits with
    | [] => []
    | [d] => d :: exponentText (point - 1)
    | d :: rest => d :: '.' :: rest ++ exponentText (point - 1)
  else if point ≤ 0 then
    '0' :: '.' :: List.replicate (-point).toNat '0' ++ digits
  else if (digits.length : Int) ≤ point then
    digits ++ List.replicate (point.toNat - digits.length) '0' ++ ['.', '0']
  else digits.take point.toNat ++ '.' :: digits.drop point.toNat

/-- Writes a sign in front of a negative number. -/
def signed (negative : Bool) (body : List Char) : String :=
  String.ofList (if negative then '-' :: body else body)

/-- The shortest text that reads back as the number. -/
def shortest : Binary64 → String
  | .notANumber => "nan"
  | .infinite negative => signed negative ['i', 'n', 'f']
  | .finite negative 0 _ => signed negative ['0', '.', '0']
  | .finite negative mantissa exponent =>
    let (digits, power) := shortestDigits mantissa exponent
    let text := digitText digits
    signed negative (layOut text (text.length + power))

/-- The text with one decimal place, from the exact value. -/
def onePlace : Binary64 → String
  | .notANumber => "nan"
  | .infinite negative => signed negative ['i', 'n', 'f']
  | .finite negative mantissa exponent =>
    let (num, den) := ratio mantissa exponent
    let tenths := roundDiv (num * 10) den
    signed negative (digitText (tenths / 10) ++ '.' :: digitText (tenths % 10))

end PlaybookLint.Binary64
