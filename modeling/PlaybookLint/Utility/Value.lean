import PlaybookLint.Shell.Expression
import PlaybookLint.Utility.Operand

/-!
Programs that write what their words say, or tell whether it holds.
-/

namespace PlaybookLint.Utility

open Shell Shell.Action

def echo (words : List Octets) : Action Unit := put (Shell.echo .extended words)

def printf (words : List Octets) : Action Unit := do
  let s ← get
  let words := if words.head? == some ['-', '-'] then words.drop 1 else words
  match words with
  | [] => misused (ofText "missing operand")
  | format :: words => do
    let p := Shell.printf .extended format words
    put p.shown
    for told in p.warnings do
      let word := told.takeWhile (· != ':')
      refuse (quoted s word ++ ofText ": expected a numeric value")
    match p.fault with
    | some fault => refuse fault
    | none => return

/-- Tells whether a condition holds. -/
def test (bracket : Bool) (words : List Octets) : Action Unit := do
  let s ← get
  if bracket && words.getLast? != some [']'] then refuse (ofText "missing " ++ quoted s [']']) 2
  else
    let words := if bracket then words.dropLast else words
    match Testing.evaluateExtended (fileTests s.system.tree s.place) (words.length + 1) words with
    | .ok holds => setStatus (if holds then 0 else 1)
    | .error told =>
      let word := told.takeWhile (· != ':')
      refuse (ofText "invalid integer " ++ quoted s word) 2

/-! ### Expressions -/

/-- Working out an expression takes words away. -/
abbrev Working (α : Type) := StateT (List Octets) (Except (State → Octets)) α

namespace Working

/-- A text that is a whole number. -/
def number? (s : Octets) : Option Int :=
  match s with
  | '-' :: digits => (natural? digits).map fun n => -(n : Int)
  | digits => (natural? digits).map fun n => (n : Int)

def isNothing (s : Octets) : Bool := s.isEmpty || (number? s) == some 0

def ofBool (b : Bool) : Octets := if b then ['1'] else ['0']

/-- Compares two values, as numbers if both are. -/
def compare (sign : String) (a b : Octets) : Bool :=
  let less (a b : Octets) : Bool :=
    match number? a, number? b with
    | some m, some n => m < n
    | _, _ => isBefore a b
  let same := match number? a, number? b with
    | some m, some n => m == n
    | _, _ => a == b
  match sign with
  | "<" => less a b
  | "<=" => less a b || same
  | "=" | "==" => same
  | "!=" => !same
  | ">=" => !less a b
  | _ => less b a

/-- The part of a text that an expression stands for at its beginning: its group, or its length. -/
def matched (text expression : Octets) : Octets :=
  match compileExpression false false (['^'] ++ expression) with
  | none => ['0']
  | some p =>
    let subject := (toText text).toList.toArray
    let hasGroup := 1 < p.groups
    match findExpression? p subject 0 with
    | none => if hasGroup then [] else ['0']
    | some groups =>
      if hasGroup then
        match (groups[1]?).bind id with
        | some (a, b) => ofText (String.ofList (subject.extract a b).toList)
        | none => []
      else
        match (groups.head?).bind id with
        | some (a, b) => numberText ((b - a : Nat) : Int)
        | none => ['0']

def fail {α : Type} (told : State → Octets) : Working α := throw told

def needNumbers (a b : Octets) : Working (Int × Int) :=
  match number? a, number? b with
  | some m, some n => return (m, n)
  | _, _ => fail fun _ => ofText "non-integer argument"

/-- The signs of a level, the weakest first. -/
def signsAt : Nat → List String
  | 0 => ["|"]
  | 1 => ["&"]
  | 2 => ["<", "<=", "=", "==", "!=", ">=", ">"]
  | 3 => ["+", "-"]
  | 4 => ["*", "/", "%"]
  | _ => [":"]

def combine (sign : String) (a b : Octets) : Working Octets := do
  match sign with
  | "|" => return if !isNothing a then a else if !isNothing b then b else ['0']
  | "&" => return if isNothing a || isNothing b then ['0'] else a
  | ":" => return matched a b
  | "+" | "-" | "*" | "/" | "%" => do
    let (m, n) ← needNumbers a b
    match sign with
    | "+" => return numberText (m + n)
    | "-" => return numberText (m - n)
    | "*" => return numberText (m * n)
    | _ =>
      if n == 0 then fail fun _ => ofText "division by zero"
      else return numberText (if sign == "/" then m.tdiv n else m.tmod n)
  | sign => return ofBool (compare sign a b)

mutual

/-- The value of an expression of a level; `before` is the word before it. -/
def level : Nat → Octets → Nat → Working Octets
  | 0, _, _ => fail fun _ => ofText "syntax error"
  | fuel + 1, before, n => do
    if 5 < n then primary fuel before
    else
      let first ← level fuel before (n + 1)
      more fuel n first

def more : Nat → Nat → Octets → Working Octets
  | 0, _, a => return a
  | fuel + 1, n, a => do
    match ← get with
    | sign :: rest =>
      if (signsAt n).contains (String.ofList sign) then
        set rest
        let b ← level fuel sign (n + 1)
        more fuel n (← combine (String.ofList sign) a b)
      else return a
    | [] => return a

def primary : Nat → Octets → Working Octets
  | 0, _ => fail fun _ => ofText "syntax error"
  | fuel + 1, before => do
    match ← get with
    | [] => fail fun s => ofText "syntax error: missing argument after " ++ quoted s before
    | w :: rest => do
      set rest
      match String.ofList w, rest with
      | "(", _ => do
        let v ← level fuel w 0
        match ← get with
        | [')'] :: rest => do
          set rest
          return v
        | w :: _ => fail fun s => ofText "syntax error: expecting ')' instead of " ++ quoted s w
        | [] => fail fun s => ofText "syntax error: expecting ')' after " ++ quoted s v
      | "length", _ :: _ => do
        let v ← primary fuel w
        return numberText (toText v).length
      | "match", _ :: _ :: _ => do
        let a ← primary fuel w
        let b ← primary fuel w
        return matched a b
      | "substr", _ :: _ :: _ :: _ => do
        let a ← primary fuel w
        let start := (number? (← primary fuel w)).getD 0
        let length := (number? (← primary fuel w)).getD 0
        return if start ≤ 0 || length ≤ 0 then [] else (a.drop (start.toNat - 1)).take length.toNat
      | "index", _ :: _ :: _ => do
        let a ← primary fuel w
        let chars ← primary fuel w
        let place : Nat := ((a.findIdx? chars.contains).map (· + 1)).getD 0
        return numberText place
      | _, _ => return w

end

end Working

def expr (words : List Octets) : Action Unit := do
  let words := if words.head? == some ['-', '-'] then words.drop 1 else words
  if words.isEmpty then misused (ofText "missing operand") 2
  let s ← get
  match (Working.level (16 * words.length + 64) [] 0).run words with
  | .error told => refuse (told s) 2
  | .ok (v, []) => do
    put (v ++ ['\n'])
    setStatus (if Working.isNothing v then 1 else 0)
  | .ok (_, w :: _) => refuse (ofText "syntax error: unexpected argument " ++ quoted s w) 2

/-! ### Sequences -/

/-- A decimal as a whole number of units of its last place, with the number of its places. -/
def decimal? (s : Octets) : Option (Int × Nat) :=
  let (negative, digits) : Bool × Octets := match s with
    | '-' :: rest => (true, rest)
    | '+' :: rest => (false, rest)
    | rest => (false, rest)
  let whole := digits.takeWhile isDigit
  let (fraction, rest) : Octets × Octets := match digits.drop whole.length with
    | '.' :: rest => (rest.takeWhile isDigit, rest.dropWhile isDigit)
    | rest => ([], rest)
  if !rest.isEmpty || (whole.isEmpty && fraction.isEmpty) then none
  else
    let n : Int := digitsValue (whole ++ fraction)
    some (if negative then -n else n, fraction.length)

/-- A number of units of a place as a decimal. -/
def decimalText (places : Nat) (n : Int) : Octets :=
  let digits := numberText n.natAbs
  let padded := List.replicate (places + 1 - digits.length) '0' ++ digits
  let whole := padded.take (padded.length - places)
  let fraction := padded.drop (padded.length - places)
  (if n < 0 then ['-'] else []) ++ whole ++ (if places == 0 then [] else '.' :: fraction)

def seq (words : List Octets) : Action Unit := do
  let long := [("separator", 's'), ("equal-width", 'w'), ("format", 'f')]
  let negative (w : Octets) : Bool := w.head? == some '-' && ((w.drop 1).head?.map isDigit).getD false
  let before := words.takeWhile (!negative ·)
  let w ← SwitchTable.read { letters := "w", valued := "sf", long, anywhere := false } before
  let operands := w.operands ++ words.drop before.length
  let s ← get
  if operands.isEmpty then misused (ofText "missing operand")
  match operands.find? fun v => (decimal? v).isNone with
  | some v => misused (ofText "invalid floating point argument: " ++ quoted s v)
  | none => do
    match operands.drop 3 with
    | extra :: _ => misused (ofText "extra operand " ++ quoted s extra)
    | [] => pure ()
    let given := operands.filterMap decimal?
    let (first, step, last) : (Int × Nat) × (Int × Nat) × (Int × Nat) := match given with
      | [last] => ((1, 0), (1, 0), last)
      | [first, last] => (first, (1, 0), last)
      | [first, step, last] => (first, step, last)
      | _ => ((1, 0), (1, 0), (0, 0))
    let places := max first.2 step.2
    let all := max places last.2
    let scaled (v : Int × Nat) : Int := v.1 * (Nat.pow 10 (all - v.2) : Nat)
    let a := scaled first
    let d := scaled step
    let b := scaled last
    if d == 0 then
      misused (ofText "invalid Zero increment value: " ++ quoted s ((operands[1]?).getD []))
    let count := if (0 < d && b < a) || (d < 0 && a < b) then 0 else ((b - a) / d).toNat + 1
    let unit : Int := (Nat.pow 10 (all - places) : Nat)
    let texts := (List.range count).map fun (k : Nat) =>
      decimalText places ((a + d * (k : Int)) / unit)
    let width := if w.has 'w' then (texts.map List.length).foldl max 0 else 0
    let padded (t : Octets) : Octets := match t with
      | '-' :: rest => '-' :: List.replicate (width - t.length) '0' ++ rest
      | t => List.replicate (width - t.length) '0' ++ t
    let shown := texts.map fun t =>
      match w.value? 'f' with
      | some format => (Shell.printf .extended format [t]).shown
      | none => padded t
    if !shown.isEmpty then put (((w.value? 's').getD ['\n']).intercalate shown ++ ['\n'])

/-! ### The system -/

def pwd (words : List Octets) : Action Unit := do
  let s ← get
  if words.any (·.head? != some '-') then notice (ofText "ignoring non-option arguments")
  put (if words.contains ['-', 'L'] then s.directory ++ ['\n'] else placeText s.place ++ ['\n'])

def id (words : List Octets) : Action Unit := do
  let w ← SwitchTable.read { letters := "ugGnra" } words
  if w.has 'u' || w.has 'g' || w.has 'G' then put (if w.has 'n' then ofText "root\n" else ofText "0\n")
  else put (ofText "uid=0(root) gid=0(root) groups=0(root)\n")

def uname (words : List Octets) : Action Unit := do
  let w ← SwitchTable.read { letters := "asnrvmpio" } words
  match w.operands with
  | [] => put (if w.has 'm' then ofText "x86_64\n" else if w.has 'o' then ofText "GNU/Linux\n"
      else ofText "Linux\n")
  | extra :: _ => misused (ofText "extra operand " ++ quoted (← get) extra)

end PlaybookLint.Utility
