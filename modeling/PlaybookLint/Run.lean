import PlaybookLint.Log
import PlaybookLint.Path
import PlaybookLint.Files.Errno
import PlaybookLint.ToolOutput
import PlaybookLint.Trouble

/-!
Runs. A run is everything that a task does to the world around it, in order, and how it ended: the
linter is called, the user is notified, something is written to the log. What happened before a
fault stays in the run.
-/

namespace PlaybookLint

/-- A call of the linter program. The time limit is in thousandths of a second. -/
structure Call where
  executable : String
  arguments : List String
  directory : Path
  timeLimit : Int
deriving Repr, DecidableEq

/-- How grave a notice is. -/
inductive NoticeGrade where
  | warning
  | error
deriving Repr, DecidableEq

def NoticeGrade.name : NoticeGrade → String
  | .warning => "warning"
  | .error => "error"

/-- Something the user is told apart from diagnostics. -/
structure Notice where
  grade : NoticeGrade
  message : String
  detail : String
  dismissable : Bool
deriving Repr, DecidableEq

inductive Event where
  | called (c : Call)
  | notified (n : Notice)
  | logged (r : LogRecord)
deriving Repr, DecidableEq

structure Run (ε α : Type) where
  events : List Event
  outcome : Except ε α

namespace Run

/-- The run that does nothing and ends in an outcome. -/
def ofExcept {ε α : Type} (outcome : Except ε α) : Run ε α := ⟨[], outcome⟩

/-- The run that ends in a fault at once. -/
def fail {ε α : Type} (fault : ε) : Run ε α := ⟨[], .error fault⟩

/-- One run after the other; after a fault there is no other. -/
def andThen {ε α β : Type} (r : Run ε α) (next : α → Run ε β) : Run ε β :=
  match r.outcome with
  | .error fault => ⟨r.events, .error fault⟩
  | .ok a => ⟨r.events ++ (next a).events, (next a).outcome⟩

instance (ε : Type) : Monad (Run ε) where
  pure a := ⟨[], .ok a⟩
  bind := andThen

/-- The run of a single event. -/
def event {ε : Type} (e : Event) : Run ε Unit := ⟨[e], .ok ()⟩

def notify {ε : Type} (n : Notice) : Run ε Unit := event (.notified n)

def log {ε : Type} (records : List LogRecord) : Run ε Unit := ⟨records.map .logged, .ok ()⟩

/-- Goes on after a fault. -/
def recover {ε α : Type} (r : Run ε α) (handle : ε → Run ε α) : Run ε α :=
  match r.outcome with
  | .error fault => ⟨r.events ++ (handle fault).events, (handle fault).outcome⟩
  | .ok a => ⟨r.events, .ok a⟩

def mapFault {ε δ α : Type} (f : ε → δ) (r : Run ε α) : Run δ α := ⟨r.events, r.outcome.mapError f⟩

/-- The calls of a run, in order. -/
def calls {ε α : Type} (r : Run ε α) : List Call :=
  r.events.filterMap fun
    | .called c => some c
    | _ => none

/-- The notices of a run, in order. -/
def notices {ε α : Type} (r : Run ε α) : List Notice :=
  r.events.filterMap fun
    | .notified n => some n
    | _ => none

/-- The log of a run, in order. -/
def records {ε α : Type} (r : Run ε α) : List LogRecord :=
  r.events.filterMap fun
    | .logged r => some r
    | _ => none

end Run

/-- Runs the linter program for a call: what it writes to the log, and what it brings back. -/
abbrev Invoker := Call → List LogRecord × Except Trouble ToolOutput

/-- The run of one call. -/
def Invoker.run (invoker : Invoker) (c : Call) : Run Trouble ToolOutput :=
  ⟨.called c :: (invoker c).1.map .logged, (invoker c).2⟩

end PlaybookLint
