import PlaybookLint.CommandLine.Scan
import PlaybookLint.Settings.Setting
import PlaybookLint.Severity
import PlaybookLint.Path
import PlaybookLint.Validation.Coerce

/-!
What a command line asks for: to lint files, or to check the release of the linter program. Numbers
are read as leniently as those of settings that are written as texts.
-/

namespace PlaybookLint.CommandLine

inductive OutputFormat where
  | concise
  | json
deriving Repr, DecidableEq

def OutputFormat.ofName? : String → Option OutputFormat
  | "concise" => some .concise
  | "json" => some .json
  | _ => none

/-- How messages are wanted. -/
structure Appearance where
  emoji : Bool
  colour : Bool
deriving Repr, DecidableEq

/-- To lint files. -/
structure LintTask where
  files : List Path
  configFile : Option Path
  /-- Settings given as options; nothing for those that were not. -/
  overrides : Entries
  jobs : Int
  format : OutputFormat
  threshold : Severity
  appearance : Appearance
  verbose : Bool
deriving Repr

/-- To check the release of the linter program. -/
structure CheckTask where
  configFile : Option Path
  overrides : Entries
  appearance : Appearance
deriving Repr

inductive Task where
  | lint (t : LintTask)
  | checkVersion (t : CheckTask)
deriving Repr

/-- The options of every command. -/
def commonForms : List OptionForm :=
  [.valued "--config", .valued "--executable", .flag "--no-color", .flag "--no-emoji"]

/-- The options for linting. -/
def lintForms : List OptionForm :=
  commonForms ++ OptionForm.lettered "--skip" "-x" ++ OptionForm.lettered "--rules-dir" "-r"
    ++ OptionForm.pair "--rules-dir-default" "--no-rules-dir-default" ++ [.valued "--exclude"]
    ++ OptionForm.pair "--use-project-config" "--no-use-project-config" ++ [.valued "--blacklist"]
    ++ OptionForm.pair "--display-severity" "--no-display-severity" ++ [.valued "--timeout"]
    ++ OptionForm.lettered "--jobs" "-j" ++ [.valued "--output", .valued "--min-severity"]
    ++ [.flag "--verbose", ⟨"-v", "--verbose", some "yes"⟩]

/-- Reads the value of an option that was given. -/
def readValue {α : Type} (s : Scanned) (key : String) (default : α) (read : String → Option α) :
    Except UsageError α :=
  match s.last? key with
  | none => .ok default
  | some value =>
    match read value with
    | some a => .ok a
    | none => .error (.badValue key value)

def textOrNull (s : Scanned) (key : String) : Datum := ((s.last? key).map Datum.text).getD .null

def flagOrNull (s : Scanned) (key : String) : Datum := ((s.flag? key).map Datum.flag).getD .null

def textsOrNull (s : Scanned) (key : String) : Datum :=
  if (s.all key).isEmpty then .null else .list ((s.all key).map .text)

def appearanceOf (s : Scanned) : Appearance := ⟨!s.isSet "--no-emoji", !s.isSet "--no-color"⟩

/-- The settings that options for linting give. -/
def lintOverrides (s : Scanned) (timeout : Datum) : Entries :=
  [(Setting.name .executablePath, textOrNull s "--executable"),
   (Setting.name .ruleSkips, textOrNull s "--skip"),
   (Setting.name .rulesDirs, textsOrNull s "--rules-dir"),
   (Setting.name .rulesDirDefault, flagOrNull s "--rules-dir-default"),
   (Setting.name .excludeDirs, textsOrNull s "--exclude"),
   (Setting.name .useProjectConfig, flagOrNull s "--use-project-config"),
   (Setting.name .blacklist, textOrNull s "--blacklist"),
   (Setting.name .displaySeverity, flagOrNull s "--display-severity"),
   (Setting.name .timeout, timeout)]

/-- A number of jobs, at least one. -/
def jobs? (s : String) : Option Int := (Datum.readInteger s).toOption.filter (1 ≤ ·)

def seconds? (s : String) : Option Datum := (Datum.readFloat? s).map .decimal

/-- A path, which holds no null character. -/
def path? (s : String) : Option Path :=
  if s.toList.contains '\x00' then none else some (Path.ofText s)

def configFileOf (s : Scanned) : Except UsageError (Option Path) :=
  readValue s "--config" none fun text => (path? text).map some

/-- The files that are named, at least one. -/
def filesOf (s : Scanned) : Except UsageError (List Path) := do
  if s.arguments.isEmpty then throw .noFiles
  s.arguments.mapM fun word =>
    match path? word with
    | some file => .ok file
    | none => .error (.badValue "files" word)

def LintTask.ofWords (words : List String) : Except UsageError LintTask := do
  let s ← scan lintForms words
  let timeout ← readValue s "--timeout" Datum.null seconds?
  let jobs ← readValue s "--jobs" 1 jobs?
  let format ← readValue s "--output" .concise OutputFormat.ofName?
  let threshold ← readValue s "--min-severity" .info Severity.ofName?
  return {
    files := ← filesOf s
    configFile := ← configFileOf s
    overrides := lintOverrides s timeout
    jobs, format, threshold
    appearance := appearanceOf s
    verbose := s.isSet "--verbose" }

def CheckTask.ofWords (words : List String) : Except UsageError CheckTask := do
  let s ← scan commonForms words
  match s.arguments with
  | [] =>
    return {
      configFile := ← configFileOf s
      overrides := [(Setting.name .executablePath, textOrNull s "--executable")]
      appearance := appearanceOf s }
  | word :: _ => throw (.unexpectedArgument word)

/-- What a command and the words after it ask for. -/
def Task.ofCommand : List String → Except UsageError Task
  | [] => .error .noCommand
  | "lint" :: words => (LintTask.ofWords words).map .lint
  | "check-version" :: words => (CheckTask.ofWords words).map .checkVersion
  | name :: _ => .error (if isOption name then .unknownOption name else .unknownCommand name)

/-- What a command line asks for. -/
def Task.ofWords : List String → Except UsageError Task
  | "--" :: words => Task.ofCommand words
  | words => Task.ofCommand words

end PlaybookLint.CommandLine
