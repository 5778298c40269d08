/-!
Binary floating-point numbers of 64 bits, held as exact values: a sign, a natural mantissa and a
power of two. Rounding takes a quotient of naturals to the nearest number, a tie to the even
mantissa. Arithmetic is exact and rounds once; nothing here uses the machine's own floating point.
-/

namespace PlaybookLint

/-- A 64-bit floating-point number. A finite one is its mantissa times two to its exponent; the
exponent is at least -1074, and the mantissa has 53 bits unless the exponent is the least. -/
inductive Binary64 where
  | finite (negative : Bool) (mantissa : Nat) (exponent : Int)
  | infinite (negative : Bool)
  | notANumber
deriving Repr, DecidableEq

namespace Binary64

/-- The least exponent. -/
def minExponent : Int := -1074

/-- The greatest exponent. -/
def maxExponent : Int := 971

/-- The quotient of naturals rounded to the nearest natural, a tie to the even one. -/
def roundDiv (num den : Nat) : Nat :=
  let q := num / den
  let twice := 2 * (num % den)
  if twice < den then q
  else if den < twice then q + 1
  else if q % 2 == 0 then q else q + 1

/-- The quotient `num / den` in units of two to the `exponent`, as a quotient of naturals. -/
def inUnits (num den : Nat) (exponent : Int) : Nat × Nat :=
  if 0 ≤ exponent then (num, den * Nat.pow 2 exponent.toNat) else (num * Nat.pow 2 (-exponent).toNat, den)

/-- The greatest `k` such that two to the `k` is at most `num / den`. -/
def floorLog2 (num den : Nat) : Int :=
  let guess : Int := (num.log2 : Int) - (den.log2 : Int)
  let (n, d) := inUnits num den guess
  if n < d then guess - 1 else guess

/-- Zero of either sign. -/
def zero (negative : Bool) : Binary64 := .finite negative 0 minExponent

/-- Refuses an exponent that is too large. -/
def bounded (negative : Bool) (mantissa : Nat) (exponent : Int) : Binary64 :=
  if maxExponent < exponent then .infinite negative else .finite negative mantissa exponent

/-- The number nearest to the quotient of naturals `num / den`. -/
def ofRatio (negative : Bool) (num den : Nat) : Binary64 :=
  if num == 0 then zero negative
  else
    let exponent := max (floorLog2 num den - 52) minExponent
    let (n, d) := inUnits num den exponent
    let mantissa := roundDiv n d
    if mantissa == Nat.pow 2 53 then bounded negative (Nat.pow 2 52) (exponent + 1)
    else bounded negative mantissa exponent

/-- The number nearest to an integer, if it is finite. -/
def ofInt? (i : Int) : Option Binary64 :=
  match ofRatio (i < 0) i.natAbs 1 with
  | .infinite _ => none
  | x => some x

/-- The size of a finite number as a quotient of naturals. -/
def ratio (mantissa : Nat) (exponent : Int) : Nat × Nat :=
  if 0 ≤ exponent then (mantissa * Nat.pow 2 exponent.toNat, 1) else (mantissa, Nat.pow 2 (-exponent).toNat)

/-- Is the number greater than zero? -/
def isPositive : Binary64 → Bool
  | .finite negative mantissa _ => !negative && mantissa != 0
  | .infinite negative => !negative
  | .notANumber => false

/-- Is the number less than zero? -/
def isNegative : Binary64 → Bool
  | .finite negative mantissa _ => negative && mantissa != 0
  | .infinite negative => negative
  | .notANumber => false

/-- The number times a natural, rounded once. -/
def times (x : Binary64) (n : Nat) : Binary64 :=
  match x with
  | .finite negative mantissa exponent =>
    let (num, den) := ratio mantissa exponent
    ofRatio negative (num * n) den
  | other => other

/-- The number divided by a natural other than zero, rounded once. -/
def dividedBy (x : Binary64) (n : Nat) : Binary64 :=
  match x with
  | .finite negative mantissa exponent =>
    let (num, den) := ratio mantissa exponent
    ofRatio negative num (den * n)
  | other => other

/-- Two numbers added, rounded once. The sum of zeros is negative if both are. -/
def plus : Binary64 → Binary64 → Binary64
  | .finite negative mantissa exponent, .finite negative' mantissa' exponent' =>
    let (num, den) := ratio mantissa exponent
    let (num', den') := ratio mantissa' exponent'
    let signed (negative : Bool) (size : Nat) : Int := if negative then -size else size
    let total := signed negative (num * den') + signed negative' (num' * den)
    ofRatio (total < 0 || total == 0 && negative && negative') total.natAbs (den * den')
  | .infinite negative, .infinite negative' =>
    if negative == negative' then .infinite negative else .notANumber
  | .notANumber, _ | _, .notANumber => .notANumber
  | .infinite negative, _ | _, .infinite negative => .infinite negative

/-- The integer nearest to the number on the side of zero; infinities and the rest have none. -/
def truncate? : Binary64 → Option Int
  | .finite negative mantissa exponent =>
    let (num, den) := ratio mantissa exponent
    let size : Int := Int.ofNat (num / den)
    some (if negative then -size else size)
  | _ => none

/-- The integer that the number is, if it is one. -/
def toInt? (x : Binary64) : Option Int :=
  match x with
  | .finite _ mantissa exponent =>
    let (num, den) := ratio mantissa exponent
    if num % den == 0 then truncate? x else none
  | _ => none

end Binary64

end PlaybookLint
