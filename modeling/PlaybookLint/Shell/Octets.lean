import PlaybookLint.Text.Utf8

/-!
The texts of scripts. They are octets; each octet is held as the character of that number.
-/

namespace PlaybookLint.Shell

/-- A text of octets. -/
abbrev Octets := List Char

/-- The octets of a text. -/
def ofText (s : String) : Octets := (Text.Utf8.encode s).map fun b => Char.ofNat b.toNat

def ofOctets (bs : List UInt8) : Octets := bs.map fun b => Char.ofNat b.toNat

def toOctets (s : Octets) : List UInt8 := s.map fun c => c.toNat.toUInt8

/-- The text of octets, as file names are read. -/
def toText (s : Octets) : String := Text.Utf8.decodeReplacing (toOctets s)

def isBlank (c : Char) : Bool := c == ' ' || c == '\t'

/-- Blanks and all that moves to another line. -/
def isSpace (c : Char) : Bool := c == ' ' || ('\t' ≤ c && c ≤ '\r')

def isLetter (c : Char) : Bool := ('a' ≤ c && c ≤ 'z') || ('A' ≤ c && c ≤ 'Z')

def isDigit (c : Char) : Bool := '0' ≤ c && c ≤ '9'

def isNameStart (c : Char) : Bool := isLetter c || c == '_'

def isNameChar (c : Char) : Bool := isNameStart c || isDigit c

/-- Is the text a name? -/
def isName : Octets → Bool
  | [] => false
  | c :: rest => isNameStart c && rest.all isNameChar

/-- Names of one character with a meaning of their own. -/
def isSpecialName (c : Char) : Bool := ['#', '@', '*', '?', '$', '!', '-'].contains c || isDigit c

/-- The value of a digit in a base of at most 36. -/
def digitValue? (base : Nat) (c : Char) : Option Nat :=
  let n := c.toNat
  let value? :=
    if isDigit c then some (n - 48)
    else if 'a' ≤ c && c ≤ 'z' then some (n - 87)
    else if 'A' ≤ c && c ≤ 'Z' then some (n - 55)
    else none
  value?.filter (· < base)

/-- The number that the digits at the beginning of a text write in a base, and what follows them. -/
def readDigits (base : Nat) (s : Octets) : Nat × Octets :=
  let digits := s.takeWhile fun c => (digitValue? base c).isSome
  (digits.foldl (fun n c => base * n + (digitValue? base c).getD 0) 0, s.drop digits.length)

/-- The number that decimal digits write. -/
def digitsValue (digits : Octets) : Nat := (readDigits 10 digits).1

def numberText (i : Int) : Octets := (toString i).toList

/-- A text without the line feeds at its end. -/
def withoutLastLines (s : Octets) : Octets := (s.reverse.dropWhile (· == '\n')).reverse

/-- The pieces of a text between characters of one kind, empty ones included. -/
def splitAt (separator : Char) : Octets → List Octets
  | [] => [[]]
  | c :: rest =>
    if c == separator then [] :: splitAt separator rest
    else
      match splitAt separator rest with
      | [] => [[c]]
      | piece :: pieces => (c :: piece) :: pieces

/-- The lines of a text; an unfinished last line is one too. -/
def linesOf (s : Octets) : List Octets :=
  match (splitAt '\n' s).reverse with
  | [] :: rest => rest.reverse
  | pieces => pieces.reverse

/-- The largest and the smallest number that a machine word holds. -/
def greatestWord : Int := 9223372036854775807

def leastWord : Int := -9223372036854775808

/-- A number as a machine word holds it. -/
def wrapWord (i : Int) : Int := (i + 9223372036854775808).emod 18446744073709551616 - 9223372036854775808

end PlaybookLint.Shell
