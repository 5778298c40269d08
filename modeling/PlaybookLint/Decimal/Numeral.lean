import PlaybookLint.Decimal.Shortest

/-!
Decimal numerals: a sign, digits with at most one point, and an exponent. Reading gives the nearest
floating-point number; the words for infinity and for no number are read in any case.
-/

namespace PlaybookLint.Numeral

/-- A sign in front of `s`, and what follows it. -/
def takeSign : List Char → Bool × List Char
  | '-' :: rest => (true, rest)
  | '+' :: rest => (false, rest)
  | rest => (false, rest)

/-- The value of decimal digits. -/
def digitsValue (digits : List Char) : Nat :=
  digits.foldl (fun total c => 10 * total + (c.toNat - '0'.toNat)) 0

/-- The integer that an exponent part stands for; absent means zero. -/
def exponent? : List Char → Option Int
  | [] => some 0
  | e :: rest =>
    if e == 'e' || e == 'E' then
      let (negative, digits) := takeSign rest
      if digits.isEmpty || !digits.all Char.isDigit then none
      else
        let size : Int := digitsValue digits
        some (if negative then -size else size)
    else none

/-- The number nearest to `digits` times ten to the `power`; far out of range it is not computed. -/
def nearest (negative : Bool) (digits : List Char) (power : Int) : Binary64 :=
  let digits := digits.dropWhile (· == '0')
  let point : Int := digits.length + power
  if digits.isEmpty then .zero negative
  else if 400 < point then .infinite negative
  else if point < -400 then .zero negative
  else .ofTens negative (digitsValue digits) power

/-- Reads an unsigned numeral of ASCII digits. -/
def unsigned? (negative : Bool) (s : List Char) : Option Binary64 :=
  let whole := s.takeWhile Char.isDigit
  let rest := s.dropWhile Char.isDigit
  let (fraction, rest) :=
    match rest with
    | '.' :: after => (after.takeWhile Char.isDigit, after.dropWhile Char.isDigit)
    | _ => ([], rest)
  if whole.isEmpty && fraction.isEmpty then none
  else (exponent? rest).map fun power =>
    nearest negative (whole ++ fraction) (power - fraction.length)

/-- Reads a numeral of ASCII digits or one of the words for infinity and for no number. -/
def float? (s : List Char) : Option Binary64 :=
  let (negative, body) := takeSign s
  let word := String.ofList (body.map Char.toLower)
  if word == "inf" || word == "infinity" then some (.infinite negative)
  else if word == "nan" then some .notANumber
  else unsigned? negative body

end PlaybookLint.Numeral
