import PlaybookLint.Program.Machine
import PlaybookLint.Shell.Evaluation

/-!
What the programs of a rehearsal do once they have been started.
-/

namespace PlaybookLint.Program

open Shell

/-- How many steps a program may take; one that takes more is taken never to end. -/
def stepLimit : Nat := 60000

/-- A process before it becomes a program: its input is empty, its outputs are the channels. -/
def startState (tree : Files.Tree) (cwd : Files.Place) (env : List (String × String)) : State where
  system :=
    { tree
      clock := Performance.startTime
      steps := stepLimit
      opened := [(0, .stream [] (some 0)), (1, .sink (.channel .out)), (2, .sink (.channel .err))]
      nextNumber := firstProcess + 1
      written := []
      held := []
      released := none
      signals := [] }
  dialect := .extended
  number := firstProcess
  ancestors := []
  process := firstProcess
  place := cwd
  directory := placeText cwd
  descriptors := [(0, 0), (1, 1), (2, 2)]
  name := []
  parameters := []
  bindings := env.map fun (k, v) => (ofText k, { value := some (ofText v), exported := true })
  functions := []
  aliases := []
  documents := []
  nextDocument := 0
  switches := {}
  status := 0
  line := 0
  builtin := none
  traps := []
  pending := []
  frames := []
  loops := 0
  tested := false
  inSubshell := false
  departing := false
  jobs := []
  outputStatus := none
  heldStatus := none
  gathering := 0
  located := []
  optionPlace := (1, 0)

/-- The end that an interruption means. -/
def finishOf (s : State) : Except Interruption Unit → Option Finish
  | .error (.exit code) => some ⟨s.system.clock, code⟩
  | .error (.killed _ signal) => some ⟨s.system.clock, -signal⟩
  | .error .never => none
  | _ => some ⟨s.system.clock, s.status⟩

/-- What is written to the channels, in the order of time. -/
def writingsOf (written : List Written) : List Writing :=
  let all := written.reverse.filterMap fun w =>
    match w.sink with
    | .channel c => some ⟨w.time, c, toOctets w.octets⟩
    | .inner _ => none
  all.mergeSort fun a b => a.time ≤ b.time

/-- When nobody can write to the channels any more. -/
def silenceOf (s : State) (finish : Option Finish) : Option Nat :=
  let holds := s.system.held.filter fun h =>
    match h.sink with
    | .channel _ => true
    | .inner _ => false
  (holds.map (·.finish)).foldl laterEnd (s.system.released <|> finish.map (·.time))

/-- What a program of a rehearsal does in a directory and an environment, and the files as it leaves
them. -/
def perform (image : Image) (cwd : Files.Place) (env : List (String × String))
    (tree : Files.Tree) : Performance × Files.Tree :=
  let (result, s) := (becomeProgram run image).run.run (startState tree cwd env)
  let finish := finishOf s result
  (⟨writingsOf s.system.written, finish, silenceOf s finish⟩, s.system.tree)

/-- The machine of a rehearsal. -/
def rehearsal : Machine := ⟨isTool, perform⟩

end PlaybookLint.Program
