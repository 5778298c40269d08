import PlaybookLint.Shell.Variables

/-!
Sums in scripts. Numbers are those of a machine word and wrap around. What a condition leaves out is
read but not carried out.
-/

namespace PlaybookLint.Shell

/-- Reads the sign of a number. -/
def takeSign : Octets → Bool × Octets
  | '-' :: rest => (true, rest)
  | '+' :: rest => (false, rest)
  | rest => (false, rest)

/-- A number as a machine word reads it: one that is too large is the largest. -/
def clampWord (negative : Bool) (n : Nat) : Int :=
  if negative then max leastWord (-n) else min greatestWord n

/-- Reads a whole number in decimal digits; blanks around it do not count. -/
def wholeNumber? (s : Octets) : Option Int :=
  let (negative, digits) := takeSign (s.dropWhile isSpace)
  let (n, rest) := readDigits 10 digits
  if rest.length == digits.length || !rest.all isSpace then none else some (clampWord negative n)

/-- The base that the beginning of a number tells, and its digits. -/
def baseOf : Octets → Nat × Octets
  | '0' :: 'x' :: rest | '0' :: 'X' :: rest => (16, rest)
  | '0' :: rest => (8, '0' :: rest)
  | rest => (10, rest)

/-- Reads a number whose beginning may tell its base. -/
def basedNumber? (s : Octets) : Option Int :=
  let (negative, digits) := takeSign (s.dropWhile isSpace)
  let (base, digits) := baseOf digits
  let (n, rest) := readDigits base digits
  if rest.length == digits.length || !rest.all isSpace then none else some (clampWord negative n)

inductive SumToken where
  | number (n : Int)
  | name (s : Octets)
  | sign (s : String)
  /-- What cannot be part of a sum. -/
  | stray (rest : Octets)
deriving Repr, DecidableEq

/-- The signs of sums, the longer ones first. -/
def sumSigns (extended : Bool) : List String :=
  (if extended then ["**", "++", "--"] else [])
    ++ ["<<=", ">>=", "<<", ">>", "<=", ">=", "==", "!=", "&&", "||", "*=", "/=", "%=", "+=", "-=",
      "&=", "^=", "|=", "<", ">", "=", "!", "~", "&", "|", "^", "+", "-", "*", "/", "%", "(", ")", "?",
      ":"] ++ (if extended then [",", "[", "]"] else [])

/-- Reads a number at the beginning of a text. -/
def leadingNumber (extended : Bool) (s : Octets) : Int × Octets :=
  let (base, digits) := baseOf s
  let (n, rest) := readDigits base digits
  if rest.length == digits.length then
    if base == 16 then (0, s.drop 1) else (0, rest)
  else
    match extended, base, rest with
    | true, 10, '#' :: more =>
      let (m, rest) := readDigits n more
      (clampWord false m, rest)
    | _, _, _ => (clampWord false n, rest)

/-- Takes a sum apart. -/
def sumTokens (extended : Bool) : Nat → Octets → List SumToken
  | 0, _ => []
  | _, [] => []
  | fuel + 1, c :: rest =>
    if isBlank c || c == '\n' then sumTokens extended fuel rest
    else if isDigit c then
      let (n, after) := leadingNumber extended (c :: rest)
      .number n :: sumTokens extended fuel after
    else if isNameStart c then
      let name := c :: rest.takeWhile isNameChar
      .name name :: sumTokens extended fuel ((c :: rest).drop name.length)
    else
      match (sumSigns extended).find? fun sign => sign.toList.isPrefixOf (c :: rest) with
      | some sign => .sign sign :: sumTokens extended fuel ((c :: rest).drop sign.length)
      | none => [.stray (c :: rest)]

namespace Arithmetic

/-- Carrying out a sum takes tokens away. -/
abbrev Calculation (α : Type) := StateT (List SumToken) Action α

/-- How tightly a sign between two numbers binds. -/
def binding? (sign : String) : Option Nat :=
  match sign with
  | "|" => some 1
  | "^" => some 2
  | "&" => some 3
  | "==" | "!=" => some 4
  | "<" | ">" | "<=" | ">=" => some 5
  | "<<" | ">>" => some 6
  | "+" | "-" => some 7
  | "*" | "/" | "%" => some 8
  | "**" => some 9
  | _ => none

def ofBool (b : Bool) : Int := if b then 1 else 0

/-- A number as a natural of 64 bits. -/
def word (i : Int) : Nat := (i.emod 18446744073709551616).toNat

/-- What a sign makes of two numbers; there is no division by zero. -/
def combine? (sign : String) (a b : Int) : Option Int :=
  match sign with
  | "|" => some (wrapWord (Nat.lor (word a) (word b)))
  | "^" => some (wrapWord (Nat.xor (word a) (word b)))
  | "&" => some (wrapWord (Nat.land (word a) (word b)))
  | "==" => some (ofBool (a == b))
  | "!=" => some (ofBool (a != b))
  | "<" => some (ofBool (a < b))
  | ">" => some (ofBool (b < a))
  | "<=" => some (ofBool (a ≤ b))
  | ">=" => some (ofBool (b ≤ a))
  | "<<" => some (wrapWord (a * Nat.pow 2 (word b % 64)))
  | ">>" => some (a.fdiv (Nat.pow 2 (word b % 64)))
  | "+" => some (wrapWord (a + b))
  | "-" => some (wrapWord (a - b))
  | "*" => some (wrapWord (a * b))
  | "/" => if b == 0 then none else some (wrapWord (a.tdiv b))
  | "%" => if b == 0 then none else some (a.tmod b)
  | "**" => some (wrapWord ((List.replicate b.toNat a).foldl (fun x y => wrapWord (x * y)) 1))
  | _ => none

/-- The sign that an assignment carries out first. -/
def assignmentSign? (sign : String) : Option String :=
  match sign with
  | "=" => some ""
  | "*=" => some "*"
  | "/=" => some "/"
  | "%=" => some "%"
  | "+=" => some "+"
  | "-=" => some "-"
  | "<<=" => some "<<"
  | ">>=" => some ">>"
  | "&=" => some "&"
  | "^=" => some "^"
  | "|=" => some "|"
  | _ => none

/-- Refuses a sum. -/
def refuse {α : Type} (source : Octets) (reason : String) : Calculation α := do
  match (← getThe State).dialect with
  | .plain =>
    (Action.giveUp (ofText s!"arithmetic expression: {reason}: \"" ++ source ++ ['"']) : Action α)
  | .extended =>
    let reason := if reason == "division by zero" then "division by 0" else "syntax error"
    (Action.giveUp (source ++ ofText s!": {reason}") : Action α)

/-- Refuses the value of a variable. -/
def refuseValue {α : Type} (value : Octets) : Calculation α :=
  (Action.giveUp (ofText "Illegal number: " ++ value) : Action α)

def peek? : Calculation (Option SumToken) := return (← get).head?

def skip : Calculation Unit := modify (·.drop 1)

def takeIf (sign : String) : Calculation Bool := do
  if (← peek?) == some (.sign sign) then
    skip
    return true
  else return false

/-- An element of an array, or a variable. -/
structure Target where
  name : Octets
  index : Option Octets

/-- The text that a target holds. -/
def held (t : Target) : Calculation Octets := do
  let s ← getThe State
  match t.index with
  | none => return s.value t.name
  | some index =>
    match s.declared? t.name with
    | some v =>
      match v.elements with
      | some elements => return (elements.lookup index).getD []
      | none => return if index == ['0'] then v.value.getD [] else []
    | none => return []

def store (t : Target) (n : Int) : Calculation Unit := do
  match t.index with
  | none => (Action.assign t.name (numberText n) : Action Unit)
  | some index =>
    (Action.changeVariable t.name fun v =>
      let elements := v.elements.getD (match v.value with | some x => [(['0'], x)] | none => [])
      { v with elements := some (State.putElement elements index (numberText n)) } : Action Unit)

mutual

/-- Sums with commas between them. -/
def commas (source : Octets) : Nat → Bool → Calculation Int
  | 0, _ => refuse source "expecting primary"
  | fuel + 1, active => do
    let a ← assignment source fuel active
    if ← takeIf "," then commas source fuel active else return a

def assignment (source : Octets) : Nat → Bool → Calculation Int
  | 0, _ => refuse source "expecting primary"
  | fuel + 1, active => do
    let before ← get
    match ← peek? with
    | some (.name _) => do
      let t ← target source fuel active
      match (← peek?).bind fun token => match token with
          | .sign sign => assignmentSign? sign
          | _ => none with
      | none => do
        set before
        conditional source fuel active
      | some sign => do
        skip
        let b ← assignment source fuel active
        if !active then return b
        else
          let result ←
            if sign.isEmpty then pure b
            else
              let a ← numberIn source fuel (← held t)
              match combine? sign a b with
              | some n => pure n
              | none => refuse source "division by zero"
          store t result
          return result
    | _ => conditional source fuel active

def conditional (source : Octets) : Nat → Bool → Calculation Int
  | 0, _ => refuse source "expecting primary"
  | fuel + 1, active => do
    let a ← disjunction source fuel active
    if ← takeIf "?" then
      let b ← assignment source fuel (active && a != 0)
      if !(← takeIf ":") then refuse source "expecting ':'"
      else
        let c ← conditional source fuel (active && a == 0)
        return if a != 0 then b else c
    else return a

def disjunction (source : Octets) : Nat → Bool → Calculation Int
  | 0, _ => refuse source "expecting primary"
  | fuel + 1, active => do
    let a ← conjunction source fuel active
    if ← takeIf "||" then
      let b ← disjunction source fuel (active && a == 0)
      return ofBool (a != 0 || b != 0)
    else return a

def conjunction (source : Octets) : Nat → Bool → Calculation Int
  | 0, _ => refuse source "expecting primary"
  | fuel + 1, active => do
    let a ← binary source fuel active 0
    if ← takeIf "&&" then
      let b ← conjunction source fuel (active && a != 0)
      return ofBool (a != 0 && b != 0)
    else return a

/-- Numbers with signs between them that bind more tightly than a given one. -/
def binary (source : Octets) : Nat → Bool → Nat → Calculation Int
  | 0, _, _ => refuse source "expecting primary"
  | fuel + 1, active, level => do
    let a ← unary source fuel active
    binaryFrom source fuel active level a

def binaryFrom (source : Octets) : Nat → Bool → Nat → Int → Calculation Int
  | 0, _, _, _ => refuse source "expecting primary"
  | fuel + 1, active, level, a => do
    match ← peek? with
    | some (.sign sign) =>
      match binding? sign with
      | none => return a
      | some tight =>
        if tight ≤ level then return a
        else
          skip
          let b ← binary source fuel active (if sign == "**" then tight - 1 else tight)
          if !active then binaryFrom source fuel active level b
          else
            match combine? sign a b with
            | some n => binaryFrom source fuel active level n
            | none => refuse source "division by zero"
    | _ => return a

def unary (source : Octets) : Nat → Bool → Calculation Int
  | 0, _ => refuse source "expecting primary"
  | fuel + 1, active => do
    match ← peek? with
    | some (.sign "+") => skip *> unary source fuel active
    | some (.sign "-") => do
      skip
      return wrapWord (-(← unary source fuel active))
    | some (.sign "!") => do
      skip
      return ofBool ((← unary source fuel active) == 0)
    | some (.sign "~") => do
      skip
      return -(← unary source fuel active) - 1
    | some (.sign "++") => do
      skip
      step source fuel active 1 true
    | some (.sign "--") => do
      skip
      step source fuel active (-1) true
    | _ => primary source fuel active

def primary (source : Octets) : Nat → Bool → Calculation Int
  | 0, _ => refuse source "expecting primary"
  | fuel + 1, active => do
    match ← peek? with
    | some (.number n) => do
      skip
      return n
    | some (.name _) => step source fuel active 0 false
    | some (.sign "(") => do
      skip
      let a ← commas source fuel active
      if ← takeIf ")" then return a else refuse source "expecting ')'"
    | _ => refuse source "expecting primary"

/-- A variable, and the element of an array that is meant. -/
def target (source : Octets) : Nat → Bool → Calculation Target
  | 0, _ => refuse source "expecting primary"
  | fuel + 1, active => do
    match ← peek? with
    | some (.name name) => do
      skip
      if ← takeIf "[" then
        let index ← commas source fuel active
        if ← takeIf "]" then return ⟨name, some (numberText index)⟩ else refuse source "bad index"
      else return ⟨name, none⟩
    | _ => refuse source "expecting primary"

/-- The value of a variable, which a sign before or after it may change. -/
def step (source : Octets) : Nat → Bool → Int → Bool → Calculation Int
  | 0, _, _, _ => refuse source "expecting primary"
  | fuel + 1, active, change, before => do
    let t ← target source fuel active
    if !active then
      let _ ← takeIf "++"
      let _ ← takeIf "--"
      return 0
    else
      let old ← numberIn source fuel (← held t)
      if before then
        store t (wrapWord (old + change))
        return wrapWord (old + change)
      else if ← takeIf "++" then
        store t (wrapWord (old + 1))
        return old
      else if ← takeIf "--" then
        store t (wrapWord (old - 1))
        return old
      else return old

/-- The number that the value of a variable is; to the larger shell it may be a sum. -/
def numberIn (source : Octets) : Nat → Octets → Calculation Int
  | 0, _ => refuse source "expecting primary"
  | fuel + 1, value => do
    if value.all isSpace then return 0
    else
      match basedNumber? value, (← getThe State).dialect with
      | some n, _ => return n
      | none, .plain => refuseValue value
      | none, .extended => do
        let outer ← get
        set (sumTokens true (value.length + 1) value)
        let n ← commas value fuel true
        match ← peek? with
        | none => do
          set outer
          return n
        | some _ => refuse value "syntax error"

end

/-- The value of a sum. -/
def evaluate (source : Octets) : Action Int := do
  let extended := (← get).dialect == .extended
  let tokens := sumTokens extended (source.length + 1) source
  if tokens.isEmpty && extended then return 0
  else
    let (n, rest) ← (commas source (16 * tokens.length + 64) true).run tokens
    if rest.isEmpty then return n
    else
      match extended with
      | false => Action.giveUp (ofText "arithmetic expression: expecting EOF: \"" ++ source ++ ['"'])
      | true => Action.giveUp (source ++ ofText ": syntax error in expression")

end Arithmetic

end PlaybookLint.Shell
