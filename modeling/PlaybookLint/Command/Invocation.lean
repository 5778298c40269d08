import PlaybookLint.Command.Run
import PlaybookLint.Run

/-!
Running the linter program. A program that cannot be started or takes too long leaves the reason of
its failure behind; a return code is part of the result.
-/

namespace PlaybookLint.Command

/-- Why a call of the linter brings nothing back. -/
inductive InvocationFault where
  | options (refusal : Options.Refusal)
  /-- The time limit is larger than any number of seconds. -/
  | limitTooLarge
  /-- The time limit is no number. -/
  | limitNotNumber (kind : String)
  | command (fault : Fault)
deriving Repr

def InvocationFault.message : InvocationFault → String
  | .options refusal => refusal.message
  | .limitTooLarge => "integer division result too large for a float"
  | .limitNotNumber kind => s!"unsupported operand type(s) for /: '{kind}' and 'int'"
  | .command fault => fault.message

/-- Thousandths of a second in seconds. -/
def secondsOf (ms : Int) : Option Binary64 :=
  match Binary64.ofRatio (ms < 0) ms.natAbs 1000 with
  | .infinite _ => none
  | x => some x

/-- The seconds of a value that counts thousandths. -/
def secondsOfDatum : Datum → Except InvocationFault Binary64
  | .integer ms =>
    match secondsOf ms with
    | some seconds => .ok seconds
    | none => .error .limitTooLarge
  | .flag b => .ok (.ofRatio false (if b then 1 else 0) 1000)
  | .decimal x => .ok (x.dividedBy 1000)
  | other => .error (.limitNotNumber other.kindName)

/-- What is logged of a call. -/
def announcement (c : Call) : LogRecord :=
  .debug .command s!"running {Text.quotedList (c.executable :: c.arguments)} in {c.directory.text}"

/-- The text of what was kept of an output. -/
def Captured.asText : Captured → String
  | .nothing => ""
  | .text s => s
  | .octets bs => Text.Utf8.decodeReplacing bs

/-- What a run of the program leaves behind; faults that say why it did not run or end are part of
that. -/
def report (executable : String) : Except Fault Completed → Except Fault ToolOutput
  | .ok done => .ok ⟨done.stdout.asText, done.stderr.asText, some done.code, none⟩
  | .error fault =>
    match fault with
    | .timedOut t => .ok ⟨t.stdout, t.stderr, none, some t.message⟩
    | .lookup (.notOnPath name) =>
      let reason := LookupFault.message (.notOnPath name)
      .ok (.ofFailure s!"Failed to spawn command `{executable}`: {reason}")
    | .spawn (.refused refusal) =>
      let what := if refusal.errno == .notFound then "spawn command" else "run"
      .ok (.ofFailure s!"Failed to {what} `{executable}`: {refusal.message}")
    | fault => .error fault

/-- Runs the linter program for a call with a time limit in seconds: the host as it is then, what is
logged, and the outcome. -/
def invokeWithin (host : Host) (c : Call) (seconds : Binary64) :
    Host × List LogRecord × Except InvocationFault ToolOutput :=
  let own : Entries := [("cwd", .text c.directory.text), ("timeout", .decimal seconds)]
  match Options.override Options.defaults own with
  | .error refusal => (host, [], .error (.options refusal))
  | .ok values =>
    let (after, outcome) := carryOut host (Options.ofEntries values) (c.executable :: c.arguments)
    (after, [announcement c], (report c.executable outcome).mapError .command)

/-- Runs the linter program for a call. -/
def invoke (host : Host) (c : Call) : List LogRecord × Except InvocationFault ToolOutput :=
  match secondsOf c.timeLimit with
  | none => ([], .error .limitTooLarge)
  | some seconds => (invokeWithin host c seconds).2

/-- The kind of trouble that a fault is. -/
def InvocationFault.kind : InvocationFault → TroubleKind
  | .options .negativeTimeout => .value
  | .options _ => .foreign "TypeError"
  | .limitTooLarge => .foreign "OverflowError"
  | .limitNotNumber _ => .foreign "TypeError"
  | .command (.lookup .noWords) => .value
  | .command (.lookup (.notOnPath _)) => .system
  | .command (.spawn (.refused _)) => .system
  | .command (.spawn (.notText _)) => .foreign "TypeError"
  | .command (.spawn _) => .value
  | .command (.limit (.notNumber _)) => .foreign "TypeError"
  | .command (.limit _) => .foreign "OverflowError"
  | .command (.timedOut _) => .foreign "CommandTimeoutError"

/-- The linter program of a host. -/
def invoker (host : Host) : Invoker := fun c =>
  let (log, outcome) := invoke host c
  (log, outcome.mapError fun fault => ⟨fault.kind, fault.message⟩)

end PlaybookLint.Command
