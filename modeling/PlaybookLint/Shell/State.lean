import PlaybookLint.Program.Tool
import PlaybookLint.Program.Performance

/-!
What commands work on. The system is shared by all processes that a script starts: the files, the
clock, what is open and what has been written. Everything else belongs to one shell; a process begins
with a copy of it.
-/

namespace PlaybookLint.Shell

/-- Where written octets end up: on a channel of the program, or with whoever gathers them. -/
inductive Sink where
  | channel (c : Channel)
  | inner (number : Nat)
deriving Repr, DecidableEq

/-- What a process has written. Processes that are waited for write in the name of who waits. -/
structure Written where
  time : Nat
  process : Nat
  sink : Sink
  octets : Octets
deriving Repr

/-- A sink that a process which is not waited for keeps open, and until when. -/
structure Hold where
  process : Nat
  sink : Sink
  finish : Option Nat
deriving Repr

/-- What is open. The octets of a stream have times at which they come; it may never be closed. -/
inductive Opened where
  | sink (s : Sink)
  | stream (data : List (Nat × Char)) (closes : Option Nat)
  | file (place : Files.Place) (position : Nat) (appends readable writable : Bool)
deriving Repr

structure System where
  tree : Files.Tree
  clock : Nat
  /-- How many steps may still be taken. -/
  steps : Nat
  opened : List (Nat × Opened)
  nextNumber : Nat
  /-- What has been written, the latest first. -/
  written : List Written
  held : List Hold
  /-- Since when the first process itself can no longer write to a channel, if it cannot. -/
  released : Option Nat
  /-- Signals on their way to shells that deal with them. -/
  signals : List (Nat × Nat)

/-- A variable may be declared without a value. -/
structure Variable where
  value : Option Octets
  exported : Bool := false
  readonly : Bool := false
  /-- The elements of an array by their indices. -/
  elements : Option (List (Octets × Octets)) := none
  /-- Are the indices of the array texts? -/
  keyed : Bool := false
  integer : Bool := false

abbrev Variables := List (Octets × Variable)

/-- Switches of the shell. -/
structure Switches where
  exitsOnFailure : Bool := false
  refusesUnset : Bool := false
  keepsPatterns : Bool := false
  traces : Bool := false
  echoesInput : Bool := false
  exportsAll : Bool := false
  keepsFiles : Bool := false
  readsOnly : Bool := false
  minusRest : Octets := []
  failsInPipes : Bool := false
  /-- Switches of the larger shell by their names. -/
  others : List Octets := []

/-- What a function or a source file can give back to. -/
structure Frame where
  /-- The function, or what stands for a source file. -/
  name : Octets
  parameters : List Octets
  /-- Variables as they were before they were made local. -/
  saved : List (Octets × Option Variable)

/-- What is done on a signal, or at the end. -/
structure Trap where
  signal : Nat
  action : Octets

/-- A process that is not waited for. That a signal has ended it may still have to be told. -/
structure Background where
  number : Nat
  status : Nat
  finish : Option Nat
  endedBy : Option Nat
deriving Repr

/-- A shell that has started another one, and the signals that it deals with. -/
structure Ancestor where
  number : Nat
  deals : List Nat
deriving Repr

structure State where
  system : System
  dialect : Dialect
  /-- The number of the shell; a copy of it that does a part of its work has the same one. -/
  number : Nat
  ancestors : List Ancestor
  /-- The process in whose name is written. -/
  process : Nat
  place : Files.Place
  /-- The directory as it was named on the way there. -/
  directory : Octets
  descriptors : List (Nat × Nat)
  name : Octets
  parameters : List Octets
  bindings : Variables
  functions : List (Octets × Command)
  aliases : List (Octets × Octets)
  documents : List (Nat × Word)
  nextDocument : Nat
  switches : Switches
  status : Nat
  /-- The line of the command that is being carried out. -/
  line : Nat
  /-- The builtin that is being carried out. -/
  builtin : Option Octets
  traps : List Trap
  /-- Signals that have come and not been dealt with. -/
  pending : List Nat
  frames : List Frame
  loops : Nat
  /-- Failure of a command that is looked at does not end the script. -/
  tested : Bool
  inSubshell : Bool
  /-- Nothing comes after the command; the program that it starts takes the place of the shell. -/
  departing : Bool
  jobs : List Background
  /-- The status of the last command that stood for its output. -/
  outputStatus : Option Nat
  /-- The status before what is done on a signal or at the end. -/
  heldStatus : Option Nat
  /-- How many outputs of commands are being gathered. -/
  gathering : Nat
  /-- Names of programs that have been looked for, and their paths. -/
  located : List (Octets × Octets)
  /-- How options among the parameters have been read. -/
  optionPlace : Nat × Nat

/-- Why commands are not gone on with. -/
inductive Interruption where
  /-- So many loops are left. -/
  | leave (loops : Nat)
  /-- The last of so many loops is begun again. -/
  | again (loops : Nat)
  /-- The function is left. -/
  | back
  | exit (code : Nat)
  /-- The shell cannot go on after a fault. -/
  | failed
  /-- A shell, known by its number, is ended by a signal. -/
  | killed (number signal : Nat)
  /-- The script does not come to an end. -/
  | never
deriving Repr, DecidableEq

/-- Carrying something out changes the state and may be interrupted. -/
abbrev Action (α : Type) := ExceptT Interruption (StateM State) α

/-- What commands fall back on for what is nested in them. A program that has been found takes the
place of the shell. -/
inductive Job where
  | commands (cs : List Command)
  | command (c : Command)
  | script (text : Octets)
  | program (image : Program.Image)

abbrev Runner := Job → Action Unit

namespace Action

def setStatus (code : Nat) : Action Unit := modify fun s => { s with status := code }

def modifySystem (f : System → System) : Action Unit :=
  modify fun s => { s with system := f s.system }

/-- Takes a step; a script that takes too many does not come to an end. -/
def tick : Action Unit := do
  let s ← get
  match s.system.steps with
  | 0 => throw .never
  | n + 1 => set { s with system := { s.system with steps := n } }

def now : Action Nat := return (← get).system.clock

/-- Waits until a time. -/
def waitUntil (time : Nat) : Action Unit :=
  modifySystem fun y => { y with clock := max y.clock time }

/-- A number that has not been given yet. -/
def fresh : Action Nat := do
  let n := (← get).system.nextNumber
  modifySystem fun y => { y with nextNumber := n + 1 }
  return n

/-- Opens something and gives it a number. -/
def openAs (o : Opened) : Action Nat := do
  let n ← fresh
  modifySystem fun y => { y with opened := (n, o) :: y.opened }
  return n

def opened? (fd : Nat) : Action (Option (Nat × Opened)) := do
  let s ← get
  match s.descriptors.lookup fd with
  | none => return none
  | some n => return (s.system.opened.lookup n).map (n, ·)

def setOpened (n : Nat) (o : Opened) : Action Unit :=
  modifySystem fun y =>
    { y with opened := y.opened.map fun (k, old) => if k == n then (k, o) else (k, old) }

def connect (fd number : Nat) : Action Unit :=
  modify fun s => { s with descriptors := (fd, number) :: s.descriptors.filter (·.1 != fd) }

def disconnect (fd : Nat) : Action Unit :=
  modify fun s => { s with descriptors := s.descriptors.filter (·.1 != fd) }

/-- The content of a file. -/
def contentAt (tree : Files.Tree) (place : Files.Place) : Octets :=
  match tree.at? place with
  | some (.file content _) => ofOctets content
  | _ => []

/-- Changes the content of a file that is there. -/
def putContent (tree : Files.Tree) (place : Files.Place) (content : Octets) : Files.Tree :=
  if place == Files.emptyDevice then tree
  else
    match tree.at? place with
    | some (.file _ executable) => tree.insert place (.file (toOctets content) executable)
    | _ => tree

/-- The content with octets put at a position. -/
def putAt (content : Octets) (position : Nat) (octets : Octets) : Octets :=
  let gap := List.replicate (position - content.length) '\x00'
  content.take position ++ gap ++ octets ++ content.drop (position + octets.length)

/-- Writes at a time; tells whether that is possible. Writing to a large file takes many steps. -/
def writeAt (fd time : Nat) (octets : Octets) : Action Bool := do
  match ← opened? fd with
  | some (_, .sink sink) => do
    if !octets.isEmpty then
      let process := (← get).process
      modifySystem fun y => { y with written := ⟨time, process, sink, octets⟩ :: y.written }
    return true
  | some (n, .file place position appends readable true) => do
    let tree := (← get).system.tree
    let content := contentAt tree place
    let start := if appends then content.length else position
    modifySystem fun y => { y with
      tree := putContent tree place (putAt content start octets)
      steps := y.steps - content.length / 1024 }
    setOpened n (.file place (start + octets.length) appends readable true)
    return true
  | _ => return false

def writeTo (fd : Nat) (octets : Octets) : Action Bool := do writeAt fd (← now) octets

/-- Says something on the error channel. -/
def say (octets : Octets) : Action Unit := do
  let _ ← writeTo 2 octets

/-- What is in front of a complaint: the script and the line. -/
def complaintStart : Action Octets := do
  let s ← get
  let line := numberText s.line
  match s.dialect with
  | .plain => return s.name ++ ofText ": " ++ line ++ ofText ": "
  | .extended => return s.name ++ ofText ": line " ++ line ++ ofText ": "

/-- Complains about something, in the name of the builtin at work. -/
def complain (octets : Octets) : Action Unit := do
  let s ← get
  let name := match s.builtin with
    | some b => b ++ ofText ": "
    | none => []
  say ((← complaintStart) ++ name ++ octets ++ ['\n'])

/-- Complains and gives up. -/
def giveUp {α : Type} (octets : Octets) : Action α := do
  complain octets
  throw .failed

/-- The rest of what can be read, with the times at which it comes, and whether it ends. -/
def readTimed (fd : Nat) : Action (Option (List (Nat × Char) × Option Nat)) := do
  match ← opened? fd with
  | some (n, .stream data closes) => do
    setOpened n (.stream [] closes)
    return some (data, closes)
  | some (n, .file place position appends true writable) => do
    let content := contentAt (← get).system.tree place
    let time ← now
    setOpened n (.file place (max position content.length) appends true writable)
    return some ((content.drop position).map (time, ·), some time)
  | _ => return none

/-- Reads all there is and waits for its end. -/
def readAll (fd : Nat) : Action (Option Octets) := do
  match ← readTimed fd with
  | none => return none
  | some (_, none) => throw .never
  | some (data, some closes) => do
    waitUntil closes
    return some (data.map (·.2))

/-- Reads one octet and waits for it; there is none at the end. -/
def readOctet (fd : Nat) : Action (Option Char) := do
  match ← opened? fd with
  | some (n, .stream ((time, c) :: rest) closes) => do
    setOpened n (.stream rest closes)
    waitUntil time
    return some c
  | some (_, .stream [] (some closes)) => waitUntil closes *> return none
  | some (_, .stream [] none) => throw .never
  | some (n, .file place position appends true writable) => do
    match (contentAt (← get).system.tree place)[position]? with
    | some c => do
      setOpened n (.file place (position + 1) appends true writable)
      return some c
    | none => return none
  | _ => return none

/-- Reads up to a character, which is taken too; tells whether it came. -/
def readUpTo (fd : Nat) (stop : Char) : Action (Octets × Bool) := do
  match ← opened? fd with
  | some (n, .stream data closes) => do
    let before := data.takeWhile (·.2 != stop)
    match data.drop before.length with
    | (time, _) :: rest => do
      setOpened n (.stream rest closes)
      waitUntil time
      return (before.map (·.2), true)
    | [] => do
      setOpened n (.stream [] closes)
      match closes with
      | none => throw .never
      | some time => do
        waitUntil time
        return (before.map (·.2), false)
  | some (n, .file place position appends true writable) => do
    let rest := (contentAt (← get).system.tree place).drop position
    let before := rest.takeWhile (· != stop)
    let found := before.length < rest.length
    let taken := if found then before.length + 1 else before.length
    setOpened n (.file place (position + taken) appends true writable)
    return (before, found)
  | _ => return ([], false)

/-- Carries something out and tells how it was interrupted, if it was. -/
def attempt {α : Type} (act : Action α) : Action (Except Interruption α) :=
  ExceptT.mk do
    let result ← act.run
    return .ok result

/-- Carries something out in a changed state; `leave` makes the state afterwards of the ones before and
after, however it ends. -/
def around {α : Type} (enter : State → State) (leave : State → State → State) (act : Action α) :
    Action α := do
  let before ← get
  set (enter before)
  let result ← attempt act
  modify (leave before)
  match result with
  | .ok a => return a
  | .error e => throw e

/-- What has been written to a sink since, in order, which is taken away. -/
def gather (sink : Sink) : Action (List (Nat × Octets)) := do
  let s ← get
  let (mine, others) := s.system.written.partition (·.sink == sink)
  set { s with system := { s.system with written := others } }
  let sorted := mine.reverse.mergeSort fun a b => a.time ≤ b.time
  return sorted.map fun w => (w.time, w.octets)

end Action

end PlaybookLint.Shell
