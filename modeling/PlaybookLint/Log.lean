/-!
Log records: what the library says about its own work, apart from its results.
-/

namespace PlaybookLint

inductive LogLevel where
  | debug
  | warning
deriving Repr, DecidableEq

def LogLevel.name : LogLevel → String
  | .debug => "DEBUG"
  | .warning => "WARNING"

/-- The part of the library that speaks. -/
inductive LogSource where
  | settings
  | command
  | failures
  | gate
  | version
  | linter
deriving Repr, DecidableEq

/-- The name under which a part appears in a log. -/
def LogSource.name : LogSource → String
  | .settings => "ansible_lint_adapter.config_loader"
  | .command => "ansible_lint_adapter.process"
  | .failures => "ansible_lint_adapter.parsers.stderr"
  | .gate => "ansible_lint_adapter.blacklist"
  | .version => "ansible_lint_adapter.version"
  | .linter => "ansible_lint_adapter.linter"

structure LogRecord where
  level : LogLevel
  source : LogSource
  message : String
deriving Repr, DecidableEq

namespace LogRecord

def debug (source : LogSource) (message : String) : LogRecord := ⟨.debug, source, message⟩

def warning (source : LogSource) (message : String) : LogRecord := ⟨.warning, source, message⟩

/-- Level and message. -/
def brief (r : LogRecord) : String := r.level.name ++ " " ++ r.message

/-- Level, source and message. -/
def full (r : LogRecord) : String := r.level.name ++ " " ++ r.source.name ++ ": " ++ r.message

end LogRecord

end PlaybookLint
