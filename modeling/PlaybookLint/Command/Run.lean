import PlaybookLint.Command.Limit
import PlaybookLint.Command.Spawn
import PlaybookLint.Text.Lines

/-!
Running a command to its end or to its time limit. A return code is no fault, whatever it is.
-/

namespace PlaybookLint.Command

/-- What was kept of an output. -/
inductive Captured where
  | nothing
  | text (s : String)
  | octets (bs : List UInt8)
deriving Repr, DecidableEq

/-- A command that has come to its end. -/
structure Completed where
  command : List String
  code : Int
  stdout : Captured
  stderr : Captured
deriving Repr, DecidableEq

/-- A command that was given up when its time was over, and what it had written by then. -/
structure TimedOut where
  command : List String
  limit : Datum
  stdout : String
  stderr : String
deriving Repr

def TimedOut.message (t : TimedOut) : String :=
  let name := t.command.headD ""
  s!"Command '{name}' timed out after {seconds t.limit}s"

/-- Why a command has not come to its end. -/
inductive Fault where
  | lookup (fault : LookupFault)
  | spawn (fault : SpawnFault)
  | limit (fault : LimitFault)
  | timedOut (t : TimedOut)
deriving Repr

def Fault.message : Fault → String
  | .lookup fault => fault.message
  | .spawn fault => fault.message
  | .limit fault => fault.message
  | .timedOut t => t.message

/-- Octets as text, undecodable ones replaced; every kind of line end becomes a line feed. -/
def textOf (octets : List UInt8) : String :=
  String.ofList (Text.unifyLineEnds (Text.Utf8.decodeReplacing octets).toList)

/-- What is kept of an output. -/
def capture (o : Options) (octets : List UInt8) : Captured :=
  if !o.captureOutput then .nothing
  else if o.text then .text (textOf octets)
  else .octets octets

/-- When whoever waits for a performance is done with it: at its end, and not before nobody can write
any more if the output is wanted. -/
def awaitedTime (o : Options) (p : Performance) : Option Nat :=
  if o.captureOutput then
    match p.finish, p.silence with
    | some finish, some silence => some (max finish.time silence)
    | _, _ => none
  else p.finish.map (·.time)

/-- How a performance ends for whoever waits a given time for it, or without limit. -/
def endsWithin (o : Options) (p : Performance) (limit : Option Nat) : Option Finish :=
  match awaitedTime o p, limit with
  | none, _ => none
  | some _, none => p.finish
  | some time, some limit => if time < limit then p.finish else none

/-- Was there nobody left who could write before the time was over? There is only the end to wait for
then, and who waits for that alone has nothing to show when the time is over. -/
def fellSilent (p : Performance) (limit : Nat) : Bool := p.silence.any (· < limit)

/-- What is kept of what had been written to a channel when the time was over, line ends as they are. -/
def partialText (o : Options) (p : Performance) (channel : Channel) (limit : Nat) : String :=
  if o.captureOutput && !fellSilent p limit then
    Text.Utf8.decodeReplacing (p.written channel (· < limit))
  else ""

/-- The time to wait in thousandths of a second. Without output there is nothing to wait for but the
end, and that can be waited for as long as it takes. -/
def waitingTime (o : Options) : Except LimitFault (Option Nat) := do
  match ← limitOf o.timeout with
  | none => return none
  | some x => if o.captureOutput then return some (← waitFor x) else return thousandths x

/-- Waits for the end of a performance. -/
def await (o : Options) (command : List String) (p : Performance) (limit : Option Nat) :
    Except Fault Completed :=
  match endsWithin o p limit with
  | some finish => .ok ⟨command, finish.code, capture o (p.all .out), capture o (p.all .err)⟩
  | none =>
    let limit := limit.getD 0
    .error (.timedOut ⟨command, told o.timeout, partialText o p .out limit,
      partialText o p .err limit⟩)

/-- Runs a command: the host as it is then, and what has come of it. -/
def carryOut (host : Host) (o : Options) (args : List String) : Host × Except Fault Completed :=
  let prepared : Except Fault (List String × Started × Option Nat) := do
    let command ← (normalize host args).mapError .lookup
    let started ← (spawn host o (command.headD "") command.tail).mapError .spawn
    let limit ← (waitingTime o).mapError .limit
    return (command, started, limit)
  match prepared with
  | .error fault => (host, .error fault)
  | .ok (command, started, limit) =>
    let (p, tree) := host.machine.perform started.image started.directory started.env host.tree
    ({ host with tree }, await o command p limit)

/-- Runs a command. -/
def run (host : Host) (o : Options) (args : List String) : Except Fault Completed :=
  (carryOut host o args).2

end PlaybookLint.Command
