import PlaybookLint.Shell.State

/-!
The values of names. Some names belong to the shell itself; of the others some are handed on to
programs, and some keep their value for good.
-/

namespace PlaybookLint.Shell

/-- The number of the first shell among all processes. -/
def firstProcess : Nat := 42

/-- The letters of the switches that are on. -/
def Switches.letters (w : Switches) (dialect : Dialect) : Octets :=
  let letter (on : Bool) (c : Char) : Octets := if on then [c] else []
  let own := letter w.exportsAll 'a' ++ letter w.exitsOnFailure 'e' ++ letter w.keepsPatterns 'f'
    ++ letter w.readsOnly 'n' ++ letter w.refusesUnset 'u' ++ letter w.echoesInput 'v'
    ++ letter w.traces 'x' ++ letter w.keepsFiles 'C' ++ w.minusRest
  match dialect with
  | .plain =>
    letter w.refusesUnset 'u' ++ letter w.exportsAll 'a' ++ letter w.keepsFiles 'C'
      ++ letter w.echoesInput 'v' ++ letter w.traces 'x' ++ w.minusRest ++ letter w.readsOnly 'n'
      ++ letter w.keepsPatterns 'f' ++ letter w.exitsOnFailure 'e'
  | .extended => if own.contains 'h' then own else ['h', 'B'] ++ own

namespace State

def declared? (s : State) (name : Octets) : Option Variable := s.bindings.lookup name

/-- The value of a variable; of an array it is the first element. -/
def stored? (s : State) (name : Octets) : Option Octets :=
  (s.declared? name).bind fun v =>
    match v.elements with
    | some elements => elements.lookup ['0']
    | none => v.value

/-- Values that the larger shell makes up when they are asked for. -/
def madeUp? (s : State) (name : String) : Option Octets :=
  match name with
  | "LINENO" => some (numberText s.line)
  | "SECONDS" => some (numberText (s.system.clock / 1000))
  | "BASHPID" => some (numberText s.number)
  | "FUNCNAME" => s.frames.head?.map (·.name)
  | "UID" | "EUID" => some ['0']
  | "OSTYPE" => some "linux-gnu".toList
  | "BASH_VERSION" => some "5.2.15(1)-release".toList
  | "BASH" => some "/bin/bash".toList
  | "BASH_SOURCE" | "BASH_ARGV0" => some s.name
  | "BASH_SUBSHELL" => some (if s.inSubshell then ['1'] else ['0'])
  | _ => none

/-- The value of a name, special names included. -/
def value? (s : State) (name : Octets) : Option Octets :=
  match name with
  | ['#'] => some (numberText s.parameters.length)
  | ['?'] => some (numberText s.status)
  | ['$'] => some (numberText s.number)
  | ['-'] => some (s.switches.letters s.dialect)
  | ['!'] => s.jobs.head?.map fun j => numberText j.number
  | ['0'] => some s.name
  | c :: _ =>
    if isDigit c then s.parameters[digitsValue name - 1]?
    else
      match s.stored? name with
      | some v => some v
      | none => if s.dialect == .extended then s.madeUp? (String.ofList name) else none
  | [] => none

def value (s : State) (name : Octets) : Octets := (s.value? name).getD []

/-- Puts a variable in its place, or at the end. -/
def putVariable (bindings : Variables) (name : Octets) (v : Variable) : Variables :=
  if bindings.any (·.1 == name) then
    bindings.map fun (k, old) => if k == name then (k, v) else (k, old)
  else bindings ++ [(name, v)]

/-- Puts an element of an array in its place: numbers in order, other texts at the end. -/
def putElement (elements : List (Octets × Octets)) (index value : Octets) :
    List (Octets × Octets) :=
  if elements.any (·.1 == index) then
    elements.map fun (k, old) => if k == index then (k, value) else (k, old)
  else
    let n := digitsValue index
    let before := elements.takeWhile fun (k, _) => k.all isDigit && digitsValue k < n
    if index.all isDigit then before ++ (index, value) :: elements.drop before.length
    else elements ++ [(index, value)]

/-- The characters that divide fields. -/
def separators (s : State) : Octets :=
  match s.declared? "IFS".toList with
  | some v => v.value.getD [' ', '\t', '\n']
  | none => [' ', '\t', '\n']

/-- The chain of a variable among those of the plain shell. -/
def chainOf (name : Octets) : Nat :=
  match name with
  | [] => 0
  | c :: rest => (rest.foldl (fun n d => n + d.toNat) (17 * c.toNat)) % 39

/-- The variables that programs are given, in the order of the shell. The plain one goes through them
chain by chain. -/
def environment (s : State) : List (Octets × Octets) :=
  let given := s.bindings.filterMap fun (name, v) =>
    if v.exported then v.value.map (name, ·) else none
  match s.dialect with
  | .extended => given
  | .plain => (List.range 39).flatMap fun chain => given.filter fun (name, _) => chainOf name == chain

end State

namespace Action

/-- Says that a variable keeps its value. -/
def refuseChange {α : Type} (name : Octets) : Action α := do
  match (← get).dialect with
  | .plain => giveUp (name ++ ofText ": is read only")
  | .extended => giveUp (name ++ ofText ": readonly variable")

/-- Changes a variable, unless it keeps its value. -/
def changeVariable (name : Octets) (change : Variable → Variable) : Action Unit := do
  let s ← get
  let old := (s.declared? name).getD { value := none }
  if old.readonly then refuseChange name
  else
    let new := change old
    let new := if s.switches.exportsAll then { new with exported := true } else new
    set { s with bindings := State.putVariable s.bindings name new }

/-- Gives a variable a value; of an array it is the first element. Where programs are is forgotten if
they are to be looked for elsewhere. -/
def assign (name value : Octets) : Action Unit := do
  changeVariable name fun v =>
    match v.elements with
    | some elements => { v with elements := some (State.putElement elements ['0'] value) }
    | none => { v with value := some value }
  if name == "PATH".toList then modify fun s => { s with located := [] }

def unsetVariable (name : Octets) : Action Unit := do
  let s ← get
  match s.declared? name with
  | none => return
  | some v =>
    if v.readonly then
      match s.dialect with
      | .plain => refuseChange name
      | .extended => giveUp (name ++ ofText ": cannot unset: readonly variable")
    else set { s with bindings := s.bindings.filter (·.1 != name) }

def export_ (name : Octets) : Action Unit := do
  let s ← get
  let old := (s.declared? name).getD { value := none }
  set { s with bindings := State.putVariable s.bindings name { old with exported := true } }

def keep (name : Octets) : Action Unit := do
  let s ← get
  let old := (s.declared? name).getD { value := none }
  set { s with bindings := State.putVariable s.bindings name { old with readonly := true } }

end Action

end PlaybookLint.Shell
