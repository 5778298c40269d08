import PlaybookLint.Command.Invocation
import PlaybookLint.CommandLine.Task
import PlaybookLint.Console
import PlaybookLint.Json.Printer
import PlaybookLint.Settings.Layer
import PlaybookLint.VersionCheck

/-!
The command line: what is printed for a task, and with which code it ends. Diagnostics go to the
standard output, notices and the log to the error output.
-/

namespace PlaybookLint.CommandLine

/-- Why a task comes to no orderly end. -/
inductive Fault where
  | settings (fault : Settings.Fault)
  | resolve (fault : Files.ResolveFault)
  | lint (fault : LintFault)

def Fault.message : Fault → String
  | .settings fault => fault.message
  | .resolve fault => fault.message
  | .lint fault => fault.message

/-- What a task leaves behind. -/
structure Result where
  code : Nat
  stdout : String
  stderr : String
deriving Repr, DecidableEq

/-- The code for settings that are wrong. -/
def settingsCode : Nat := 2

/-- The name under which options count as a source of settings. -/
def overridesName : String := "command line"

/-- How messages are shown; there is colour on a terminal only. -/
def styleFor (a : Appearance) (terminal : Bool) : Console.Style := ⟨a.emoji, a.colour && terminal⟩

/-- What an event puts on the error output. Calls leave nothing there; the log is shown from
warnings on, or all of it. -/
def shownEvent (style : Console.Style) (verbose : Bool) : Event → String
  | .called _ => ""
  | .notified n => Console.notice style n
  | .logged r => if verbose || r.level == .warning then r.full ++ "\n" else ""

def shownEvents (style : Console.Style) (verbose : Bool) (events : List Event) : String :=
  String.join (events.map (shownEvent style verbose))

/-- Reads the settings for a task from the current directory. -/
def loadSettings (host : Host) (configFile : Option Path) (overrides : Entries) :
    Except Files.ResolveFault (Run Settings.Fault Configuration) := do
  let root ← host.resolve (← host.cwdPath)
  match Settings.sourcesFor host root none configFile with
  | .error fault => return .fail fault
  | .ok sources =>
    let (log, loaded) := Settings.load host (sources ++ [.memory overrides overridesName])
    return ⟨log.map .logged, loaded⟩

/-- The linter program of the host, with a configuration. -/
def linterFor (host : Host) (c : Configuration) : Linter :=
  ⟨c, .default, Command.invoker host, ProjectRoot.find host.probe⟩

/-- Does a diagnostic weigh as much as the threshold? -/
def reaches (threshold : Severity) (d : Diagnostic) : Bool := threshold.rank ≤ d.severity.rank

/-- The diagnostics that are shown, in order. -/
def select (threshold : Severity) (batches : List (List Diagnostic)) : List Diagnostic :=
  batches.flatten.filter (reaches threshold)

/-- The code for diagnostics that are shown. -/
def codeFor (shown : List Diagnostic) : Nat := if shown.any (·.severity == .error) then 1 else 0

/-- A diagnostic as it is printed. -/
def render (format : OutputFormat) (d : Diagnostic) : String :=
  match format with
  | .json => Json.print d.toHost ++ "\n"
  | .concise => Console.plain d.concise

/-- The diagnostics of all batches as they are reported. -/
def report (format : OutputFormat) (threshold : Severity) (batches : List (List Diagnostic))
    (stderr : String) : Result :=
  let shown := select threshold batches
  ⟨codeFor shown, String.join (shown.map (render format)), stderr⟩

/-- What is left behind when the settings are wrong. -/
def rejected (style : Console.Style) (fault : Settings.Fault) (stderr : String) : Result :=
  ⟨settingsCode, Console.message style .failure s!"Invalid configuration: {fault.message}", stderr⟩

/-- Goes on with a configuration; settings that are wrong end the task. -/
def withSettings (host : Host) (configFile : Option Path) (overrides : Entries)
    (style : Console.Style) (verbose : Bool)
    (next : Configuration → String → Except Fault Result) : Except Fault Result := do
  let loaded ← (loadSettings host configFile overrides).mapError .resolve
  let stderr := shownEvents style verbose loaded.events
  match loaded.outcome with
  | .ok c => next c stderr
  | .error fault =>
    if fault.isConfiguration then return rejected style fault stderr else throw (.settings fault)

/-- What lints the files of requests with a configuration, so many at a time. -/
abbrev Linting := Configuration → Int → List Request → Run LintFault (List (List Diagnostic))

/-- Lints files by any means. -/
def LintTask.runWith (host : Host) (terminal : Bool) (t : LintTask) (lintMany : Linting) :
    Except Fault Result :=
  let style := styleFor t.appearance terminal
  withSettings host t.configFile t.overrides style t.verbose fun c stderr => do
    let requests ← t.files.mapM fun file =>
      (Request.ofFile host file none c none).mapError fun refusal => .lint (.request refusal)
    let run := lintMany c t.jobs requests
    let batches ← run.outcome.mapError .lint
    return report t.format t.threshold batches (stderr ++ shownEvents style t.verbose run.events)

/-- Lints files by the linter program of the host. -/
def LintTask.run (host : Host) (terminal : Bool) (t : LintTask) : Except Fault Result :=
  t.runWith host terminal fun c jobs requests => (linterFor host c).lintAll jobs requests

/-- What is said of the release of the linter program. -/
def announce (style : Console.Style) (report : VersionReport) (stderr : String) : Result :=
  match report.status with
  | .supported => ⟨0, Console.message style .ok "ansible-lint version check passed.", stderr⟩
  | .unsupported => ⟨1, "", stderr⟩
  | .unavailable =>
    ⟨1, Console.message style .failure s!"Unable to run ansible-lint: {report.detail}", stderr⟩

/-- Checks the release of the linter program. -/
def CheckTask.run (host : Host) (terminal : Bool) (t : CheckTask) : Except Fault Result :=
  let style := styleFor t.appearance terminal
  withSettings host t.configFile t.overrides style false fun c stderr => do
    let run := (linterFor host c).activate host
    let found ← run.outcome.mapError .lint
    return announce style found (stderr ++ shownEvents style false run.events)

/-- Does what a command line asks for. -/
def Task.run (host : Host) (terminal : Bool) (t : Task) : Except Fault Result :=
  match t with
  | .lint t => t.run host terminal
  | .checkVersion t => t.run host terminal

end PlaybookLint.CommandLine
