import PlaybookLint.Shell.Builtin
import PlaybookLint.Shell.Expression

/-!
Conditions in double brackets. Their words are neither divided nor replaced by files; what stands
after an equals sign is a pattern.
-/

namespace PlaybookLint.Shell

open PlaybookLint.Shell.Action

/-- The groups of a match, as the elements of an array. -/
def keepMatch (groups : List Octets) : Action Unit :=
  modify fun s =>
    let elements := groups.zipIdx.map fun (g, k) => (numberText (k : Int), g)
    let entry : Variable := { value := none, elements := some elements }
    { s with bindings := State.putVariable s.bindings "BASH_REMATCH".toList entry }

/-- Does an expression occur in a text? Its groups are kept. -/
def searchExpression (expression text : Octets) : Action Bool := do
  match compileExpression true false expression with
  | none => do
    setStatus 2
    return false
  | some p =>
    let subject := (toText text).toList.toArray
    match findExpression? p subject 0 with
    | none => do
      keepMatch []
      return false
    | some groups => do
      keepMatch (groups.map fun
        | some (start, stop) => ofText (String.ofList (subject.extract start stop).toList)
        | none => [])
      return true

/-- Compares two words with a sign. -/
def compareIn (run : Runner) (first : Word) (sign : Octets) (second : Word) : Action Bool := do
  let a ← expandText run first
  match String.ofList sign with
  | "=" | "==" => return (← expandGlob run second).admits a
  | "!=" => return !(← expandGlob run second).admits a
  | "=~" => searchExpression (← expandText run second) a
  | "<" => return isBefore a (← expandText run second)
  | ">" => return isBefore (← expandText run second) a
  | name => do
    let b ← expandText run second
    let number (w : Octets) : Action Int := (expander run).sum [.quoted w]
    if ["-eq", "-ne", "-lt", "-le", "-gt", "-ge"].contains name then
      let m ← number a
      let n ← number b
      return match name with
        | "-eq" => m == n
        | "-ne" => m != n
        | "-lt" => m < n
        | "-le" => m ≤ n
        | "-gt" => n < m
        | _ => n ≤ m
    else
      let s ← get
      match (Testing.compareWords (fileTests s.system.tree s.place) a sign b).run' [] with
      | .ok holds => return holds
      | .error _ => return false

/-- Tests one word. -/
def testIn (run : Runner) (name : Octets) (w : Word) : Action Bool := do
  let text ← expandText run w
  let s ← get
  match String.ofList name with
  | "-v" => return (s.value? text).isSome || ((s.declared? text).bind (·.elements)).isSome
  | "-o" =>
    match (switchNames s.dialect).lookup (String.ofList text) with
    | some letter => return s.switches.isOn letter
    | none => return false
  | _ =>
    match (Testing.testWord (fileTests s.system.tree s.place) name text).run' [] with
    | .ok holds => return holds
    | .error _ => return false

/-- Does the condition hold? -/
def holds (run : Runner) : Condition → Action Bool
  | .both first second => do if ← holds run first then holds run second else return false
  | .either first second => do if ← holds run first then return true else holds run second
  | .negated inner => return !(← holds run inner)
  | .unary name w => testIn run name w
  | .binary first sign second => compareIn run first sign second

end PlaybookLint.Shell
