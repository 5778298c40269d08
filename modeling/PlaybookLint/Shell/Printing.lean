import PlaybookLint.Decimal.Numeral
import PlaybookLint.Shell.Arithmetic
import PlaybookLint.Shell.Expansion

/-!
Printing texts with escapes, and values after a format. A format is used as often as there are words
for it; a word that is missing is empty or zero.
-/

namespace PlaybookLint.Shell

def isOctal (c : Char) : Bool := '0' ≤ c && c ≤ '7'

def octetOf (n : Nat) : Char := Char.ofNat (n % 256)

/-- The character that a letter stands for after a backslash. -/
def escapedLetter? : Char → Option Char
  | '\\' => some '\\'
  | 'a' => some '\x07'
  | 'b' => some '\x08'
  | 'e' => some '\x1b'
  | 'f' => some '\x0c'
  | 'n' => some '\n'
  | 'r' => some '\r'
  | 't' => some '\t'
  | 'v' => some '\x0b'
  | _ => none

/-- Which escapes a text may have. -/
inductive EscapeForm where
  /-- Those of a format: octal digits count for themselves, and so may the sign to stop. -/
  | format (dialect : Dialect)
  /-- Those of a word: an octal number may begin with one more zero. -/
  | word (dialect : Dialect)
deriving Repr, DecidableEq

def EscapeForm.dialect : EscapeForm → Dialect
  | .format d | .word d => d

/-- What an escape stands for and what follows it; nothing if printing is to stop there. -/
def readEscape (form : EscapeForm) : Octets → Option (Octets × Octets)
  | [] => some (['\\'], [])
  | c :: rest =>
    let extended := form.dialect == .extended
    let isWord := match form with
      | .word _ => true
      | .format _ => false
    if c == 'c' && (isWord || extended) then none
    else if isOctal c then
      let leading := isWord && c == '0'
      if isWord && extended && c != '0' then some (['\\', c], rest)
      else
        let digits := ((if leading then rest else c :: rest).take 3).takeWhile isOctal
        let after := (if leading then rest else c :: rest).drop digits.length
        some ([octetOf (readDigits 8 digits).1], after)
    else if extended && c == 'x' then
      let digits := (rest.take 2).takeWhile fun d => (digitValue? 16 d).isSome
      if digits.isEmpty then some (['\\', 'x'], rest)
      else some ([octetOf (readDigits 16 digits).1], rest.drop digits.length)
    else if extended && (c == 'u' || c == 'U') then
      let digits := (rest.take (if c == 'u' then 4 else 8)).takeWhile fun d => (digitValue? 16 d).isSome
      if digits.isEmpty then some (['\\', c], rest)
      else
        let text := ofText (Char.ofNat (readDigits 16 digits).1).toString
        some (text, rest.drop digits.length)
    else if extended && c == 'E' && isWord then some (['\x1b'], rest)
    else if extended && !isWord && (c == '"' || c == '\'' || c == '?') then some ([c], rest)
    else
      match escapedLetter? c with
      | some e => some ([e], rest)
      | none => some (['\\'], c :: rest)

/-- What a text with escapes stands for, and whether it asks for printing to stop. -/
def unescapeWithin (form : EscapeForm) : Nat → Octets → Octets × Bool
  | 0, _ => ([], false)
  | _, [] => ([], false)
  | fuel + 1, '\\' :: rest =>
    match readEscape form rest with
    | none => ([], true)
    | some (shown, rest) =>
      let (more, stops) := unescapeWithin form fuel rest
      (shown ++ more, stops)
  | fuel + 1, c :: rest =>
    let (more, stops) := unescapeWithin form fuel rest
    (c :: more, stops)

def unescape (form : EscapeForm) (s : Octets) : Octets × Bool :=
  unescapeWithin form (s.length + 1) s

/-- The words with blanks between them, escapes carried out; an escape may stop all printing. -/
def echoEscaped (form : EscapeForm) : List Octets → Octets → Octets
  | [], ending => ending
  | w :: rest, ending =>
    let (printed, stops) := unescape form w
    if stops then printed
    else printed ++ (if rest.isEmpty then [] else [' ']) ++ echoEscaped form rest ending

/-- The switches that the larger shell takes before the words. -/
def echoSwitches (line escapes : Bool) : List Octets → Bool × Bool × List Octets
  | ('-' :: c :: letters) :: rest =>
    if (c :: letters).all fun d => ['n', 'e', 'E'].contains d then
      let escapes := (c :: letters).foldl (fun on d => if d == 'e' then true else if d == 'E' then false else on)
        escapes
      echoSwitches (line && !(c :: letters).contains 'n') escapes rest
    else (line, escapes, ('-' :: c :: letters) :: rest)
  | words => (line, escapes, words)

/-- What is printed for a list of words. -/
def echo (dialect : Dialect) (words : List Octets) : Octets :=
  match dialect with
  | .plain =>
    match words with
    | ['-', 'n'] :: words => echoEscaped (.word .plain) words []
    | words => echoEscaped (.word .plain) words ['\n']
  | .extended =>
    let (line, escapes, words) := echoSwitches true false words
    let ending : Octets := if line then ['\n'] else []
    if escapes then echoEscaped (.word .extended) words ending
    else [' '].intercalate words ++ ending

/-- How a value is to be shown. -/
structure Directive where
  flags : Octets
  width : Option Int
  places : Option Int
  kind : Char

/-- What printing after a format has come to. -/
structure Printed where
  shown : Octets := []
  words : List Octets
  /-- Was a word asked for? -/
  used : Bool := false
  warnings : List Octets := []
  stopped : Bool := false
  fault : Option Octets := none

namespace Printed

/-- Takes the next word. -/
def next (p : Printed) : Octets × Printed :=
  (p.words.headD [], { p with words := p.words.drop 1, used := true })

def warn (p : Printed) (text : Octets) : Printed := { p with warnings := p.warnings ++ [text] }

def print (p : Printed) (text : Octets) : Printed := { p with shown := p.shown ++ text }

end Printed

/-- What is said of a word that is no number, or not only one. -/
def numberWarning (dialect : Dialect) (word : Octets) (anything : Bool) : Octets :=
  match dialect with
  | .plain =>
    word ++ ofText (if anything then ": not completely converted" else ": expected numeric value")
  | .extended => word ++ ofText ": invalid number"

/-- The number of the character that follows a quote at the beginning of a word. -/
def quotedNumber? : Octets → Option Nat
  | '"' :: rest | '\'' :: rest => some ((rest.head?.map Char.toNat).getD 0)
  | _ => none

/-- The number that a word is, and what is to be said of it. -/
def printedNumber (dialect : Dialect) (signed : Bool) (word : Octets) : Int × Option Octets :=
  match quotedNumber? word with
  | some n => (n, none)
  | none =>
    let (negative, digits) := takeSign (word.dropWhile isSpace)
    let (base, digits') := baseOf digits
    let (n, rest) := readDigits base digits'
    let anything := rest.length < digits'.length
    let (n, rest) := if !anything && base == 16 then (0, digits.drop 1) else (n, rest)
    let anything := anything || base == 16
    let size : Int := n
    let tooLarge := if signed then (if negative then size > -leastWord else size > greatestWord)
      else size > 18446744073709551615
    let range := if tooLarge then some (word ++ ofText ": Numerical result out of range") else none
    let value : Int :=
      if signed then clampWord negative n
      else if tooLarge then 18446744073709551615
      else if negative then (-size).emod 18446744073709551616 else size
    if word.isEmpty then (0, none)
    else if !anything || !rest.isEmpty then (value, some (numberWarning dialect word anything))
    else (value, range)

/-- Digits in a base. -/
def digitsIn (base : Nat) (upper : Bool) (n : Nat) : Octets :=
  (Nat.toDigits base n).map fun c => if upper then upperOf c else c

/-- Puts a text into a field of a width. -/
def pad (d : Directive) (zeros : Bool) (sign body : Octets) : Octets :=
  let width := d.width.getD 0
  let left := d.flags.contains '-' || width < 0
  let missing := width.natAbs - (sign.length + body.length)
  if left then sign ++ body ++ List.replicate missing ' '
  else if zeros && d.flags.contains '0' then sign ++ List.replicate missing '0' ++ body
  else List.replicate missing ' ' ++ sign ++ body

/-- The sign of a number. -/
def signText (d : Directive) (negative : Bool) : Octets :=
  if negative then ['-'] else if d.flags.contains '+' then ['+']
  else if d.flags.contains ' ' then [' '] else []

/-- Digits with zeros in front, as many as there are places. -/
def withPlaces (d : Directive) (digits : Octets) : Octets :=
  match d.places with
  | none => digits
  | some places =>
    let digits := if places == 0 && digits == ['0'] then [] else digits
    List.replicate (places.toNat - digits.length) '0' ++ digits

/-- A whole number in decimal digits. -/
def showWhole (d : Directive) (n : Int) : Octets :=
  pad d d.places.isNone (signText d (n < 0)) (withPlaces d (digitsIn 10 false n.natAbs))

/-- A natural number in another base. -/
def showNatural (d : Directive) (n : Nat) : Octets :=
  let alternate := d.flags.contains '#'
  let (base, mark) : Nat × Octets := match d.kind with
    | 'o' => (8, [])
    | 'x' => (16, if alternate && n != 0 then ['0', 'x'] else [])
    | 'X' => (16, if alternate && n != 0 then ['0', 'X'] else [])
    | _ => (10, [])
  let digits := withPlaces d (digitsIn base (d.kind == 'X') n)
  let digits := if d.kind == 'o' && alternate && digits.head? != some '0' then '0' :: digits else digits
  pad d d.places.isNone mark digits

/-- A natural with a point before its last digits. -/
def withPoint (places : Nat) (alternate : Bool) (n : Nat) : Octets :=
  let digits := Nat.toDigits 10 n
  let digits := List.replicate (places + 1 - digits.length) '0' ++ digits
  let whole := digits.take (digits.length - places)
  if places == 0 then (if alternate then whole ++ ['.'] else whole)
  else whole ++ '.' :: digits.drop (digits.length - places)

/-- The power of ten of the first digit of a quotient, rounded to a number of digits, and these. -/
def scientific (num den places : Nat) : Nat × Int :=
  if num == 0 then (0, 0)
  else
    let guess : Int := ((Nat.toDigits 10 num).length : Int) - (Nat.toDigits 10 den).length
    let scaled (power : Int) : Nat :=
      let shift : Int := places - power
      if 0 ≤ shift then Binary64.roundDiv (num * Nat.pow 10 shift.toNat) den
      else Binary64.roundDiv num (den * Nat.pow 10 (-shift).toNat)
    let low : Nat := Nat.pow 10 places
    let first := [guess + 1, guess, guess - 1].find? fun power => low ≤ scaled power
    let power := first.getD (guess - 1)
    let digits := scaled power
    if low * 10 ≤ digits then (digits / 10, power + 1) else (digits, power)

def exponentText (upper : Bool) (power : Int) : Octets :=
  let digits := Nat.toDigits 10 power.natAbs
  (if upper then ['E'] else ['e']) ++ (if power < 0 then ['-'] else ['+'])
    ++ (if digits.length < 2 then '0' :: digits else digits)

/-- A text without zeros at the end of its fraction. -/
def withoutZeros (s : Octets) : Octets :=
  if !s.contains '.' then s
  else
    let kept := (s.reverse.dropWhile (· == '0')).reverse
    if kept.getLast? == some '.' then kept.dropLast else kept

/-- The digits of a quotient as a letter asks for them. -/
def showQuotient (d : Directive) (num den : Nat) : Octets :=
  let places := (d.places.getD 6).toNat
  let alternate := d.flags.contains '#'
  let upper := 'A' ≤ d.kind && d.kind ≤ 'Z'
  match lowerOf d.kind with
  | 'f' => withPoint places alternate (Binary64.roundDiv (num * Nat.pow 10 places) den)
  | 'e' =>
    let (digits, power) := scientific num den places
    withPoint places alternate digits ++ exponentText upper power
  | _ =>
    let significant := max places 1
    let (digits, power) := scientific num den (significant - 1)
    if power < -4 || significant ≤ power then
      let body := withPoint (significant - 1) alternate digits
      (if alternate then body else withoutZeros body) ++ exponentText upper power
    else
      let fraction := ((significant : Int) - 1 - power).toNat
      let body := withPoint fraction alternate (Binary64.roundDiv (num * Nat.pow 10 fraction) den)
      if alternate then body else withoutZeros body

/-- A number with a fraction. -/
def showFraction (d : Directive) : Binary64 → Octets
  | .finite negative mantissa exponent =>
    let (num, den) := Binary64.ratio mantissa exponent
    pad d true (signText d negative) (showQuotient d num den)
  | .infinite negative => pad { d with flags := d.flags.filter (· != '0') } false (signText d negative)
      (if 'A' ≤ d.kind && d.kind ≤ 'Z' then "INF".toList else "inf".toList)
  | .notANumber => pad { d with flags := d.flags.filter (· != '0') } false []
      (if 'A' ≤ d.kind && d.kind ≤ 'Z' then "NAN".toList else "nan".toList)

/-- The longest beginning of a text that is a number with a fraction. -/
def leadingFraction? (s : Octets) : Option (Binary64 × Octets) :=
  (prefixLengths s).reverse.findSome? fun n =>
    (Numeral.float? (s.take n)).map fun x => (x, s.drop n)

/-- Has a character a meaning to the larger shell where it stands, after another one or at the
beginning? -/
def isMeta (before : Option Char) (c : Char) : Bool :=
  match c with
  | '~' => before.all fun b => b == '=' || b == ':'
  | '#' => before.all isBlank
  | c => " \t\n'\"\\|&;()<>!\x7b\x7d*[?]^$\x60".toList.contains c

/-- Are there characters with a meaning in a text? -/
def holdsMeta : Option Char → Octets → Bool
  | _, [] => false
  | before, c :: rest => isMeta before c || holdsMeta (some c) rest

/-- A text in single quotes with escapes. -/
def escapesQuoted (s : Octets) : Octets := ['$', '\''] ++ s.flatMap shown ++ ['\'']
where
  shown (c : Char) : Octets :=
    match c with
    | '\x07' => ['\\', 'a']
    | '\x08' => ['\\', 'b']
    | '\x0b' => ['\\', 'v']
    | '\x0c' => ['\\', 'f']
    | '\x1b' => ['\\', 'E']
    | '\n' => ['\\', 'n']
    | '\t' => ['\\', 't']
    | '\r' => ['\\', 'r']
    | '\'' => ['\\', '\'']
    | '\\' => ['\\', '\\']
    | c =>
      if c < ' ' || c == '\x7f' then
        '\\' :: withPlaces ⟨[], none, some 3, 'o'⟩ (digitsIn 8 false c.toNat)
      else [c]

/-- A text quoted with backslashes, as the larger shell writes it. -/
def backslashed (s : Octets) : Octets :=
  if s.isEmpty then ['\'', '\'']
  else if s.any fun c => c < ' ' || c == '\x7f' then escapesQuoted s
  else go none s
where
  go : Option Char → Octets → Octets
    | _, [] => []
    | before, c :: rest =>
      (if isMeta before c || c == ',' then ['\\', c] else [c]) ++ go (some c) rest

/-- The first characters of a text, as many as there are places. -/
def takePlaces (d : Directive) (s : Octets) : Octets :=
  match d.places with
  | some places => if places < 0 then s else s.take places.toNat
  | none => s

/-- Reads flags, width and places after a percent sign; a star takes them from the words. -/
def readWidth (dialect : Dialect) (format : Octets) (p : Printed) : Option Int × Octets × Printed :=
  match format with
  | '*' :: rest =>
    let (word, p) := p.next
    let (n, warning) := printedNumber dialect true word
    (some n, rest, match warning with
      | some w => p.warn w
      | none => p)
  | format =>
    let digits := format.takeWhile isDigit
    (if digits.isEmpty then none else some (digitsValue digits), format.drop digits.length, p)

/-- Shows the next word as a directive asks for. -/
def showDirective (dialect : Dialect) (start : Octets) (d : Directive) (p : Printed) : Printed :=
  let (word, q) := p.next
  let warned (w : Option Octets) (q : Printed) : Printed :=
    match w with
    | some text => q.warn text
    | none => q
  match d.kind with
  | 'b' =>
    let (shown, stops) := unescape (.word dialect) word
    { q.print (pad d false [] (takePlaces d shown)) with stopped := stops }
  | 'c' => q.print (pad d false [] [word.headD '\x00'])
  | 's' => q.print (pad d false [] (takePlaces d word))
  | 'q' =>
    if dialect == .extended then q.print (pad d false [] (backslashed word))
    else { p with fault := some (start ++ ofText ": invalid directive") }
  | 'd' | 'i' =>
    let (n, warning) := printedNumber dialect true word
    warned warning (q.print (showWhole d n))
  | 'o' | 'u' | 'x' | 'X' =>
    let (n, warning) := printedNumber dialect false word
    warned warning (q.print (showNatural d n.toNat))
  | 'e' | 'E' | 'f' | 'F' | 'g' | 'G' =>
    match quotedNumber? word with
    | some n => q.print (showFraction d (Binary64.ofRatio false n 1))
    | none =>
      match leadingFraction? (word.dropWhile isSpace) with
      | some (x, rest) =>
        warned (if rest.isEmpty then none else some (numberWarning dialect word true))
          (q.print (showFraction d x))
      | none =>
        warned (if word.isEmpty then none else some (numberWarning dialect word false))
          (q.print (showFraction d (.zero false)))
  | _ =>
    match dialect with
    | .plain => { p with fault := some (start ++ ofText ": invalid directive") }
    | .extended =>
      { p with fault := some (['\x60'] ++ [d.kind] ++ ofText "': invalid format character") }

/-- Prints a format once. -/
def formatOnce (dialect : Dialect) : Nat → Octets → Printed → Printed
  | 0, _, p => p
  | _, [], p => p
  | fuel + 1, '\\' :: rest, p =>
    match readEscape (.format dialect) rest with
    | none => { p with stopped := true }
    | some (shown, rest) => formatOnce dialect fuel rest (p.print shown)
  | fuel + 1, '%' :: '%' :: rest, p => formatOnce dialect fuel rest (p.print ['%'])
  | fuel + 1, '%' :: rest, p =>
    let flags := rest.takeWhile fun c => ['#', '-', '+', ' ', '0'].contains c
    let (width, rest', p) := readWidth dialect (rest.drop flags.length) p
    let (places, rest', p) := match rest' with
      | '.' :: after =>
        let (places, after, p) := readWidth dialect after p
        (some (places.getD 0), after, p)
      | after => (none, after, p)
    let rest' := if dialect == .extended then
        rest'.dropWhile fun c => ['l', 'h', 'j', 'z', 't', 'L', 'q'].contains c && rest'.length > 1 && c != 'q'
      else rest'
    match rest' with
    | [] =>
      { p with fault := some (match dialect with
          | .plain => ofText "missing format character"
          | .extended => ['\x60'] ++ '%' :: rest ++ ofText "': missing format character") }
    | kind :: after =>
      let start := ('%' :: rest).take (rest.length + 1 - after.length)
      let p := showDirective dialect start ⟨flags, width, places, kind⟩ p
      if p.stopped || p.fault.isSome then p else formatOnce dialect fuel after p
  | fuel + 1, c :: rest, p => formatOnce dialect fuel rest (p.print [c])

/-- Prints a format as often as there are words for it. -/
def formatAll (dialect : Dialect) (format : Octets) : Nat → Printed → Printed
  | 0, p => p
  | fuel + 1, p =>
    let p := formatOnce dialect (format.length + 1) format { p with used := false }
    if p.stopped || p.fault.isSome || !p.used || p.words.isEmpty then p
    else formatAll dialect format fuel p

/-- Prints words after a format. -/
def printf (dialect : Dialect) (format : Octets) (words : List Octets) : Printed :=
  formatAll dialect format (words.length + 1) { words }

end PlaybookLint.Shell
