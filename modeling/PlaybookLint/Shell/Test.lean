import PlaybookLint.Shell.Arithmetic
import PlaybookLint.Shell.Expansion

/-!
Tests. Words are compared as texts or as numbers, and files are looked at. Whether a word is an
operator depends on how many words there are and on those after it.
-/

namespace PlaybookLint.Shell

/-- What kind of operator a word is. -/
inductive TestSign where
  | unary
  | binary
  | negation
  | conjunction
  | disjunction
  | opening
  | closing
deriving Repr, DecidableEq

def testSign? (s : Octets) : Option TestSign :=
  match String.ofList s with
  | "!" => some .negation
  | "-a" => some .conjunction
  | "-o" => some .disjunction
  | "(" => some .opening
  | ")" => some .closing
  | "-r" | "-w" | "-x" | "-e" | "-f" | "-d" | "-c" | "-b" | "-p" | "-u" | "-g" | "-k" | "-s" | "-t"
  | "-z" | "-n" | "-h" | "-O" | "-G" | "-L" | "-S" => some .unary
  | "=" | "!=" | "<" | ">" | "-eq" | "-ne" | "-ge" | "-gt" | "-le" | "-lt" | "-nt" | "-ot" | "-ef" =>
    some .binary
  | _ => none

/-- How files are looked at: the letter of a test and the path, and two paths for the same file. -/
structure FileTests where
  holds : Char → Octets → Bool
  same : Octets → Octets → Bool

/-- What a file is, seen from a directory. -/
def fileTests (tree : Files.Tree) (cwd : Files.Place) : FileTests where
  holds letter path :=
    let text := toText path
    let node := (Files.stat tree cwd text).toOption
    let isDevice := (Files.walk tree cwd text).toOption == some Files.emptyDevice
    match letter with
    | 'e' | 'r' | 'w' | 'O' | 'G' => node.isSome
    | 'f' => !isDevice && (match node with
      | some (.file _ _) => true
      | _ => false)
    | 'd' => node == some .directory
    | 'c' => isDevice
    | 's' =>
      match node with
      | some (.file content _) => !content.isEmpty
      | some _ => true
      | none => false
    | 'x' =>
      match node with
      | some (.file _ executable) => executable
      | some .directory => true
      | _ => false
    | 'h' | 'L' => node.isNone && isAt tree cwd path || isLink tree cwd text
    | _ => false
  same a b :=
    match Files.walk tree cwd (toText a), Files.walk tree cwd (toText b) with
    | .ok p, .ok q => p == q
    | _, _ => false
where
  isLink (tree : Files.Tree) (cwd : Files.Place) (text : String) : Bool :=
    let parts := text.splitOn "/"
    let parent := "/".intercalate parts.dropLast
    let parent := if parent.isEmpty then (if Files.isRooted text then "/" else ".") else parent
    match Files.walk tree cwd parent, parts.getLast? with
    | .ok place, some name =>
      match tree.at? (place ++ [name]) with
      | some (.link _) => true
      | _ => false
    | _, _ => false

/-- Looks at the words of a test; a fault is what is said of it. -/
abbrev Testing (α : Type) := StateT (List Octets) (Except Octets) α

namespace Testing

def refuse {α : Type} (sign : Octets) (reason : String) : Testing α :=
  throw (if sign.isEmpty then ofText reason else sign ++ ofText s!": {reason}")

/-- Is a word that looks like an operator of one word to be taken as a text? -/
def isOperand : List Octets → Bool
  | [] => true
  | [_] => false
  | next :: _ :: _ => testSign? next == some .binary

/-- The operator that the first of some words is. -/
def signOf : List Octets → Option TestSign
  | [] => none
  | w :: rest =>
    match testSign? w with
    | some .unary => if isOperand rest then none else some .unary
    | some .opening => if rest.isEmpty then none else some .opening
    | other => other

def number (s : Octets) : Testing Int :=
  match wholeNumber? s with
  | some n => return n
  | none => throw (ofText "Illegal number: " ++ s)

/-- Compares two words. -/
def compareWords (files : FileTests) (a sign b : Octets) : Testing Bool := do
  match String.ofList sign with
  | "=" => return a == b
  | "!=" => return a != b
  | "<" => return isBefore a b
  | ">" => return isBefore b a
  | "-ef" => return files.same a b
  | "-nt" | "-ot" => return false
  | name => do
    let m ← number a
    let n ← number b
    return match name with
      | "-eq" => m == n
      | "-ne" => m != n
      | "-ge" => n ≤ m
      | "-gt" => n < m
      | "-le" => m ≤ n
      | _ => m < n

/-- Tests one word with an operator before it. -/
def testWord (files : FileTests) (sign w : Octets) : Testing Bool := do
  match sign with
  | ['-', 'z'] => return w.isEmpty
  | ['-', 'n'] => return !w.isEmpty
  | ['-', 't'] => do
    let _ ← number w
    return false
  | ['-', c] => return files.holds c w
  | _ => return false

def skip : Testing Unit := modify (·.drop 1)

mutual

/-- Tests joined by the operator for either. The last word of a test is left in place. -/
def disjunction (files : FileTests) : Nat → Option TestSign → Testing Bool
  | 0, _ => refuse [] "too many arguments"
  | fuel + 1, sign => do
    let holds ← conjunction files fuel sign
    if signOf ((← get).drop 1) == some .disjunction then
      skip *> skip
      let more ← disjunction files fuel (signOf (← get))
      return holds || more
    else return holds

def conjunction (files : FileTests) : Nat → Option TestSign → Testing Bool
  | 0, _ => refuse [] "too many arguments"
  | fuel + 1, sign => do
    let holds ← negation files fuel sign
    if signOf ((← get).drop 1) == some .conjunction then
      skip *> skip
      let more ← conjunction files fuel (signOf (← get))
      return holds && more
    else return holds

def negation (files : FileTests) : Nat → Option TestSign → Testing Bool
  | 0, _ => refuse [] "too many arguments"
  | fuel + 1, sign => do
    if sign == some .negation then
      let rest := (← get).drop 1
      if !rest.isEmpty then skip
      if rest.isEmpty then return true else return !(← negation files fuel (signOf rest))
    else primary files fuel sign

def primary (files : FileTests) : Nat → Option TestSign → Testing Bool
  | 0, _ => refuse [] "too many arguments"
  | fuel + 1, sign => do
    match ← get with
    | [] => return false
    | w :: rest =>
      if sign == some .opening then
        skip
        if signOf rest == some .closing then return false
        else
          let holds ← disjunction files fuel (signOf rest)
          skip
          if signOf (← get) != some .closing then refuse [] "closing paren expected"
          else return holds
      else if sign == some .unary then
        match rest with
        | [] => refuse w "argument expected"
        | operand :: _ => do
          skip
          testWord files w operand
      else
        match rest with
        | op :: more =>
          if signOf rest == some .binary then
            match more with
            | [] => refuse op "argument expected"
            | b :: _ => do
              skip *> skip
              compareWords files w op b
          else return !w.isEmpty
        | [] => return !w.isEmpty

end

/-- Tests words from an operator on; no more than the last of them is left. -/
def whole (files : FileTests) (words : List Octets) (sign : Option TestSign) :
    Except Octets Bool := do
  let (holds, rest) ← (disjunction files (4 * words.length + 8) sign).run words
  match rest with
  | w :: _ :: _ => throw (w ++ ofText ": unexpected operator")
  | _ => return holds

/-- Does the test hold? With three words a comparison comes first, otherwise parentheses around all of
them and a negation of all of them. -/
def evaluate (files : FileTests) : Nat → List Octets → Except Octets Bool
  | 0, _ => .error (ofText "too many arguments")
  | _, [] => .ok false
  | fuel + 1, words =>
    match words with
    | [_, op, _] =>
      if testSign? op == some .binary then whole files words none else around fuel words
    | [_, _, _, _] => around fuel words
    | words => whole files words (signOf words)
where
  around (fuel : Nat) (words : List Octets) : Except Octets Bool :=
    if words.head? == some ['('] && words.getLast? == some [')'] then
      let inside := (words.drop 1).dropLast
      whole files inside (signOf inside)
    else if words.head? == some ['!'] then (evaluate files fuel (words.drop 1)).map (!·)
    else whole files words (signOf words)

/-- What the larger shell says of a number that is none. -/
def integerExpected (s : Octets) : Octets := s ++ ofText ": integer expression expected"

/-- Does the test hold for the larger shell? How many words there are decides. -/
def evaluateExtended (files : FileTests) : Nat → List Octets → Except Octets Bool
  | 0, _ => .error (ofText "too many arguments")
  | _, [] => .ok false
  | _, [w] => .ok !w.isEmpty
  | fuel + 1, words =>
    match words with
    | [['!'], w] => .ok w.isEmpty
    | [sign, w] =>
      if testSign? sign == some .unary then single sign w
      else if sign == "-v".toList then .ok false
      else .error (sign ++ ofText ": unary operator expected")
    | [a, sign, b] =>
      if testSign? sign == some .binary || sign == ['=', '='] then
        pair a (if sign == ['=', '='] then ['='] else sign) b
      else if sign == "-a".toList then .ok (!a.isEmpty && !b.isEmpty)
      else if sign == "-o".toList then .ok (!a.isEmpty || !b.isEmpty)
      else if a == ['!'] then (evaluateExtended files fuel [sign, b]).map (!·)
      else if a == ['('] && b == [')'] then .ok !sign.isEmpty
      else .error (sign ++ ofText ": binary operator expected")
    | words =>
      if words.head? == some ['!'] && words.length == 4 then
        (evaluateExtended files fuel (words.drop 1)).map (!·)
      else if words.head? == some ['('] && words.getLast? == some [')'] && words.length == 4 then
        evaluateExtended files fuel ((words.drop 1).dropLast)
      else
        let words := words.map fun w => if w == ['=', '='] then ['='] else w
        match whole files words (signOf words) with
        | .error e =>
          .error (if (ofText "Illegal number: ").isPrefixOf e then
              integerExpected (e.drop 16) else ofText "too many arguments")
        | holds => holds
where
  single (sign w : Octets) : Except Octets Bool := (testWord files sign w).run' []
  pair (a sign b : Octets) : Except Octets Bool :=
    match (compareWords files a sign b).run' [] with
    | .error e => .error (integerExpected (e.drop 16))
    | holds => holds

end Testing

end PlaybookLint.Shell
