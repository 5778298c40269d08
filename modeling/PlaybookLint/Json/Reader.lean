import PlaybookLint.Datum
import PlaybookLint.Decimal.Numeral

/-!
Reading JSON text. A number with a fraction or an exponent is a decimal, any other an integer of any
size. The fuel of the reader is the length of the text, since every step takes a character.
-/

namespace PlaybookLint.Json

def skipBlanks (s : List Char) : List Char :=
  s.dropWhile fun c => c == ' ' || c == '\n' || c == '\r' || c == '\t'

def hexValue? (c : Char) : Option Nat :=
  if c.isDigit then some (c.toNat - '0'.toNat)
  else if 'a' ≤ c && c ≤ 'f' then some (c.toNat - 'a'.toNat + 10)
  else if 'A' ≤ c && c ≤ 'F' then some (c.toNat - 'A'.toNat + 10)
  else none

/-- The UTF-16 unit that four hexadecimal digits stand for, and what follows them. -/
def unit? : List Char → Option (Nat × List Char)
  | a :: b :: c :: d :: rest => do
    let a ← hexValue? a
    let b ← hexValue? b
    let c ← hexValue? c
    let d ← hexValue? d
    return (((a * 16 + b) * 16 + c) * 16 + d, rest)
  | _ => none

/-- The character after a backslash and a letter that is not a hexadecimal escape. -/
def shortEscape? : Char → Option Char
  | '"' => some '"'
  | '\\' => some '\\'
  | '/' => some '/'
  | 'b' => some '\x08'
  | 'f' => some '\x0c'
  | 'n' => some '\n'
  | 'r' => some '\r'
  | 't' => some '\t'
  | _ => none

/-- The character of an escape whose backslash has been taken, and what follows it. A unit without
its partner becomes the replacement character. -/
def escaped? : List Char → Option (Char × List Char)
  | 'u' :: rest => do
    let (first, rest) ← unit? rest
    if 0xd800 ≤ first && first < 0xdc00 then
      match rest with
      | '\\' :: 'u' :: more =>
        let (second, after) ← unit? more
        if 0xdc00 ≤ second && second < 0xe000 then
          return (Char.ofNat (0x10000 + (first - 0xd800) * 0x400 + (second - 0xdc00)), after)
        else return ('\uFFFD', rest)
      | _ => return ('\uFFFD', rest)
    else if 0xdc00 ≤ first && first < 0xe000 then return ('\uFFFD', rest)
    else return (Char.ofNat first, rest)
  | c :: rest => (shortEscape? c).map (·, rest)
  | [] => none

/-- The characters of a text whose opening quote has been taken, in reverse order. -/
def textBody : Nat → List Char → List Char → Option (List Char × List Char)
  | 0, _, _ => none
  | _ + 1, _, [] => none
  | fuel + 1, taken, c :: rest =>
    if c == '"' then some (taken, rest)
    else if c == '\\' then
      match escaped? rest with
      | some (d, rest) => textBody fuel (d :: taken) rest
      | none => none
    else textBody fuel (c :: taken) rest

/-- A text whose opening quote has been taken. -/
def textLiteral? (s : List Char) : Option (String × List Char) :=
  (textBody (s.length + 1) [] s).map fun (taken, rest) => (String.ofList taken.reverse, rest)

/-- A number, and what follows it. -/
def number? (s : List Char) : Option (Datum × List Char) :=
  let isPart (c : Char) : Bool := c.isDigit || c == '-' || c == '+' || c == '.' || c == 'e' || c == 'E'
  let token := s.takeWhile isPart
  let rest := s.dropWhile isPart
  let (negative, digits) := Numeral.takeSign token
  if digits.isEmpty then none
  else if digits.all Char.isDigit then
    let size : Int := Numeral.digitsValue digits
    some (.integer (if negative then -size else size), rest)
  else (Numeral.unsigned? negative digits).map (.decimal ·, rest)

/-- Words that stand for values. -/
def words : List (List Char × Datum) :=
  [("null".toList, .null), ("true".toList, .flag true), ("false".toList, .flag false),
   ("NaN".toList, .decimal .notANumber), ("Infinity".toList, .decimal (.infinite false)),
   ("-Infinity".toList, .decimal (.infinite true))]

/-- A word that stands for a value, and what follows it. -/
def word? (s : List Char) : Option (Datum × List Char) :=
  (words.find? fun (word, _) => word.isPrefixOf s).map fun (word, d) => (d, s.drop word.length)

mutual

/-- A value, and what follows it. -/
def value? : Nat → List Char → Option (Datum × List Char)
  | 0, _ => none
  | fuel + 1, s =>
    match skipBlanks s with
    | '"' :: rest => (textLiteral? rest).map fun (t, rest) => (.text t, rest)
    | '[' :: rest =>
      match skipBlanks rest with
      | ']' :: rest => some (.list [], rest)
      | rest => (items? fuel [] rest).map fun (items, rest) => (.list items, rest)
    | '\x7b' :: rest =>
      match skipBlanks rest with
      | '\x7d' :: rest => some (.table [], rest)
      | rest => (entries? fuel [] rest).map fun (entries, rest) => (.table entries, rest)
    | other => (word? other).orElse fun _ => number? other

/-- The items of a list up to its closing bracket; `taken` holds the earlier ones in reverse. -/
def items? : Nat → List Datum → List Char → Option (List Datum × List Char)
  | 0, _, _ => none
  | fuel + 1, taken, s => do
    let (item, rest) ← value? fuel s
    match skipBlanks rest with
    | ',' :: rest => items? fuel (item :: taken) rest
    | ']' :: rest => some ((item :: taken).reverse, rest)
    | _ => none

/-- The entries of a table up to its closing brace; `taken` holds the earlier ones in reverse. -/
def entries? : Nat → List (String × Datum) → List Char → Option (List (String × Datum) × List Char)
  | 0, _, _ => none
  | fuel + 1, taken, s => do
    match skipBlanks s with
    | '"' :: rest =>
      let (key, rest) ← textLiteral? rest
      match skipBlanks rest with
      | ':' :: rest =>
        let (value, rest) ← value? fuel rest
        match skipBlanks rest with
        | ',' :: rest => entries? fuel ((key, value) :: taken) rest
        | '\x7d' :: rest => some (((key, value) :: taken).reverse, rest)
        | _ => none
      | _ => none
    | _ => none

end

/-- Reads a whole JSON text. -/
def read? (s : String) : Option Datum :=
  match value? (s.length + 1) s.toList with
  | some (d, rest) => if (skipBlanks rest).isEmpty then some d else none
  | none => none

end PlaybookLint.Json
