import PlaybookLint.Arguments
import PlaybookLint.Failure.Classification
import PlaybookLint.Finding
import PlaybookLint.Gate
import PlaybookLint.ProjectRoot
import PlaybookLint.Request
import PlaybookLint.Run

/-!
Linting. A request passes the gate, the linter program is called for it, and what the program leaves
behind is read: its report, or the text of its failure. Faults of the usual kinds do not end a run;
the user is notified of them and there are no diagnostics.
-/

namespace PlaybookLint

/-- Why linting ended before there were diagnostics. -/
inductive LintFault where
  | request (refusal : Request.Refusal)
  | arguments (refusal : Arguments.Refusal)
  /-- The time limit is infinite. -/
  | endless
  | access (fault : AccessFault)
  | trouble (t : Trouble)
  | report (refusal : Text.TooManyDigits)
  | handler (fault : Failure.HandlerFault)
  /-- The search for the pattern that excludes files noted a group wrongly. -/
  | group (fault : Pattern.BrokenGroup)
deriving Repr, DecidableEq

namespace LintFault

def message : LintFault → String
  | .request refusal => refusal.message
  | .arguments refusal => refusal.message
  | .endless => "cannot convert float infinity to integer"
  | .access fault => fault.message
  | .trouble t => t.message
  | .report refusal => refusal.message
  | .handler (.number refusal) => refusal.message
  | .handler .noGroup => "no such group"
  | .handler (.trouble t) => t.message
  | .handler (.group fault) | .group fault => fault.message

/-- What kind of trouble the fault is. -/
def kind : LintFault → TroubleKind
  | .request (.problems _) | .arguments _ | .report _ | .handler (.number _) => .value
  | .request (.linkLoop _) => .foreign "RuntimeError"
  | .request (.excess .repetition) | .endless => .foreign "OverflowError"
  | .request (.excess .lookBehind) => .foreign "RuntimeError"
  | .request (.excess .nesting) | .request .tooDeep => .foreign "RecursionError"
  | .request .noDirectory => .system
  | .access _ => .system
  | .trouble t | .handler (.trouble t) => t.kind
  | .handler .noGroup => .foreign "IndexError"
  | .handler (.group _) | .group _ => .foreign "SystemError"

/-- Is the fault of a kind that a run survives? -/
def isExpected (f : LintFault) : Bool :=
  match f.kind with
  | .adapter | .system | .value => true
  | .foreign _ => false

end LintFault

/-- What linting works with. -/
structure Linter where
  configuration : Configuration
  table : Failure.Table
  invoker : Invoker
  /-- The root of the project of a file. -/
  projectRoot : Path → Except AccessFault Path

namespace Linter

/-- What the user is told of a failure that is no diagnostic. -/
def unexpectedSummary : String :=
  "An unexpected error with ansible, ansible-lint, ansible-lint-adapter, your editor, "
    ++ "and/or your playbook, has occurred."

/-- The notice of a failure that is no diagnostic. -/
def escalation (detail : String) : Notice := ⟨.error, unexpectedSummary, detail, false⟩

/-- The diagnostics of a report. -/
def readReport (target : Target) (report : String) : Run LintFault (List Diagnostic) :=
  .ofExcept ((Report.diagnostics target report).mapError .report)

/-- The classification of a failure text. -/
def classify (table : Failure.Table) (target : Target) (text : String) :
    Run LintFault Failure.Classification := do
  Run.log (table.log text)
  Run.ofExcept ((table.classify target text).mapError .handler)

/-- Reads what a run of the program left behind. A failure that is recognised takes the place of the
report; one that nobody knows is shown to the user, and the report is read nevertheless. -/
def interpret (table : Failure.Table) (target : Target) (output : ToolOutput) :
    Run LintFault (List Diagnostic) :=
  if !output.failed then readReport target output.stdout
  else do
    let found ← classify table target output.errorText
    match found with
    | .diagnostic rule diagnostic _ =>
      Run.log [.debug .linter s!"classified ansible-lint failure as {rule}"]
      return [diagnostic]
    | .unclassified detail =>
      Run.notify (escalation detail)
      readReport target output.stdout
    | .benign _ _ | .empty => readReport target output.stdout

/-- The root of the project of a request, as far as it is needed. -/
def rootFor (l : Linter) (r : Request) : Except AccessFault (Option Path) :=
  if r.configuration.useProjectConfig && r.projectRoot.isNone then
    (l.projectRoot r.file).map some
  else .ok r.projectRoot

/-- The call of the linter program for a configuration. -/
def callFor (c : Configuration) (arguments : List String) (directory : Path) :
    Except LintFault Call :=
  match c.timeLimit? with
  | some limit => .ok ⟨c.executablePath, arguments, directory, limit⟩
  | none => .error .endless

/-- The call of the linter program for a request. -/
def callForRequest (l : Linter) (r : Request) : Except LintFault Call := do
  let root ← (l.rootFor r).mapError .access
  let arguments ← (Arguments.build r.configuration r.file.text (root.map Path.text)).mapError
    .arguments
  callFor r.configuration arguments r.directory

/-- Calls the program for a request and reads what it leaves behind. -/
def attempt (l : Linter) (r : Request) : Run LintFault (List Diagnostic) := do
  let call ← Run.ofExcept (l.callForRequest r)
  let output ← (l.invoker.run call).mapFault .trouble
  interpret l.table r.target output

/-- Lints for a request. -/
def lintRequest (l : Linter) (r : Request) : Run LintFault (List Diagnostic) :=
  match Gate.isBlacklisted r.file.text r.configuration with
  | .error fault => Run.fail (.group fault)
  | .ok true => do
    Run.log [.debug .linter s!"skipping blacklisted file {r.file.text}"]
    return []
  | .ok false =>
    (l.attempt r).recover fun fault =>
      if fault.isExpected then do
        Run.log [.debug .linter s!"lint of {r.file.text} failed"]
        Run.notify (escalation fault.message)
        return []
      else Run.fail fault

/-- Lints a file, with the linter's own configuration if no other is given. -/
def lint (l : Linter) (host : Host) (file : Path) (given : Option Configuration) :
    Run LintFault (List Diagnostic) := do
  let request ← Run.ofExcept
    ((Request.ofFile host file none (given.getD l.configuration) none).mapError .request)
  l.lintRequest request

/-- Runs all tasks, whatever becomes of the others; the first fault is that of the whole. -/
def together {ε α : Type} : List (Run ε α) → Run ε (List α)
  | [] => ⟨[], .ok []⟩
  | r :: rest =>
    let later := together rest
    ⟨r.events ++ later.events, do return (← r.outcome) :: (← later.outcome)⟩

/-- Lints for several requests. One at a time, a fault ends them all; with several at work at once,
every request is dealt with. The diagnostics come in the order of the requests. -/
def lintAll (l : Linter) (jobs : Int) (requests : List Request) :
    Run LintFault (List (List Diagnostic)) :=
  if jobs ≤ 1 || requests.length ≤ 1 then requests.mapM l.lintRequest
  else together (requests.map l.lintRequest)

end Linter

end PlaybookLint
