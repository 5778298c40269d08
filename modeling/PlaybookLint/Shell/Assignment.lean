import PlaybookLint.Shell.Braces
import PlaybookLint.Shell.Builtin

/-!
The words and the assignments of a command.
-/

namespace PlaybookLint.Shell

open PlaybookLint.Shell.Action

/-- Does a word begin with a name and an equals sign? -/
def looksAssigning : Word → Bool
  | .plain s :: _ => (s.drop (s.takeWhile isNameChar).length).head? == some '='
      && isName (s.takeWhile isNameChar)
  | _ => false

/-- The builtins whose words may be assignments. -/
def assigningBuiltins : List String := ["export", "readonly", "local", "alias"]

/-- The fields of words; what comes after a command that declares variables may be an assignment and
is then not divided. -/
def expandWords (run : Runner) (words : List Word) : Action (List Octets) := do
  let dialect := (← get).dialect
  let words := if dialect == .extended then words.flatMap expandBraces else words
  let literal := (words.headD []).length == 1 && (Word.bare? (words.headD [])).isSome
  go dialect literal [] words
where
  declares (dialect : Dialect) (literal : Bool) (done : List Octets) : Bool :=
    let names := match dialect with
      | .plain => assigningBuiltins
      | .extended => "declare" :: "typeset" :: assigningBuiltins
    match done.map String.ofList with
    | "command" :: name :: _ => names.contains name && dialect == .plain
    | name :: _ => names.contains name && (dialect == .plain || literal)
    | [] => false
  go (dialect : Dialect) (literal : Bool) : List Octets → List Word → Action (List Octets)
    | done, [] => return done
    | done, w :: rest => do
      let fields ← if declares dialect literal done && looksAssigning w then
          pure [← expandAssigned run w]
        else expandFields run w
      go dialect literal (done ++ fields) rest

/-- Adds to the value of a variable, or to the number that it is. -/
def addTo (run : Runner) (v : Option Variable) (old text : Octets) (adds : Bool) : Action Octets := do
  let integer := (v.map (·.integer)).getD false
  if integer then
    let n ← (expander run).sum [.quoted text]
    let m ← if adds then (expander run).sum [.quoted old] else pure 0
    return numberText (m + n)
  else return if adds then old ++ text else text

/-- The elements of an array that items list, `next` being the number of the next one. -/
def arrayElements (run : Runner) (keyed : Bool) :
    Nat → List (Option Word × Word) → List (Octets × Octets) → Action (List (Octets × Octets))
  | _, [], elements => return elements
  | next, (some index, w) :: rest, elements => do
    let key ← if keyed then (expander run).text index
      else pure (numberText (← (expander run).sum index))
    let v ← expandAssigned run w
    let next := if keyed then next else digitsValue key + 1
    arrayElements run keyed next rest (State.putElement elements key v)
  | next, (none, w) :: rest, elements => do
    let mut fields : List Octets := []
    for w in expandBraces w do fields := fields ++ (← expandFields run w)
    let added := fields.zipIdx.map fun (v, k) => (numberText ((next + k : Nat) : Int), v)
    arrayElements run keyed (next + fields.length) rest (elements ++ added)

/-- The number after those of all elements. -/
def nextIndex (elements : List (Octets × Octets)) : Nat :=
  match elements.getLast? with
  | some (key, _) => digitsValue key + 1
  | none => 0

/-- Carries out an assignment; how it is shown is the result. -/
def carryOut (run : Runner) : Assignment → Action Octets
  | .scalar name adds w => do
    let text ← expandAssigned run w
    let s ← get
    let v ← addTo run (s.declared? name) (s.value name) text adds
    assign name v
    return name ++ (if adds then ['+', '='] else ['=']) ++ shown s.dialect text
  | .element name index adds w => do
    let text ← expandAssigned run w
    let s ← get
    let entry := (s.declared? name).getD { value := none }
    match ← (expander run).indexOf name index with
    | .one key =>
      let elements := Expander.elementsOf s name
      let v ← addTo run (some entry) ((elements.lookup key).getD []) text adds
      changeVariable name fun entry =>
        { entry with value := none, elements := some (State.putElement elements key v) }
      return name ++ ['['] ++ key ++ [']', '='] ++ shown s.dialect text
    | .all _ => giveUp (name ++ ofText "[*]: bad array subscript")
  | .array name adds items => do
    let s ← get
    let keyed := ((s.declared? name).map (·.keyed)).getD false
    let before := if adds then Expander.elementsOf s name else []
    let elements ← arrayElements run keyed (nextIndex before) items before
    changeVariable name fun entry => { entry with value := none, elements := some elements }
    let texts := elements.map fun (_, v) => shown s.dialect v
    return name ++ ['=', '('] ++ [' '].intercalate texts ++ [')']
where
  shown : Dialect → Octets → Octets
    | .plain, v => v
    | .extended, v => quoteExtended v

/-- The name that an assignment gives a value to. -/
def Assignment.name : Assignment → Octets
  | .scalar name _ _ => name
  | .element name _ _ _ => name
  | .array name _ _ => name

end PlaybookLint.Shell
