import PlaybookLint.Settings.Setting
import PlaybookLint.Validation.Coerce
import PlaybookLint.Datum.Text
import PlaybookLint.Pattern
import PlaybookLint.Room

/-!
The configuration of a lint run. It is built from given values at once: every value is checked on its
own, all problems are reported together, and a pattern for excluded files is compiled once.
-/

namespace PlaybookLint

/-- Settings that have been checked. -/
structure Configuration where
  executablePath : String
  ruleSkips : String
  rulesDirs : List String
  rulesDirDefault : Bool
  excludeDirs : List String
  useProjectConfig : Bool
  blacklist : String
  displaySeverity : Bool
  timeout : Binary64
  exclusion : Option Pattern
deriving Repr

namespace Configuration

/-- The name of the linter program. -/
def defaultExecutable : String := "ansible-lint"

/-- The name of a project's own file of settings for the linter. -/
def projectFileName : String := ".ansible-lint"

/-- Ten seconds. -/
def defaultTimeout : Binary64 := .ofRatio false 10 1

/-- The configuration where nothing is given. -/
def default : Configuration where
  executablePath := defaultExecutable
  ruleSkips := ""
  rulesDirs := [""]
  rulesDirDefault := false
  excludeDirs := [""]
  useProjectConfig := false
  blacklist := ""
  displaySeverity := false
  timeout := defaultTimeout
  exclusion := none

/-- A program path; nothing or a blank text stands for the usual program. -/
def asExecutable : Datum → Checked String
  | .null => .ok defaultExecutable
  | .text s => .ok (if Text.isAllBlank s then defaultExecutable else s)
  | d => d.asText

/-- The trimmed texts of the values that are not blank, with commas between them. -/
def joinSkips (items : List Datum) : String :=
  ",".intercalate ((items.map fun d => Text.trim d.plain).filter (!·.isEmpty))

/-- What is said of a list with an integer that cannot be written out. -/
def tooLongMessage : String :=
  s!"Exceeds the limit ({Text.digitLimit} digits) for integer string conversion; "
    ++ "use sys.set_int_max_str_digits() to increase the limit"

/-- Rules to skip; a list is joined by commas. -/
def asSkips : Datum → Checked String
  | .null => .ok ""
  | .list items | .tuple items =>
    if Datum.areTooLong items then Checked.complain (.rejected tooLongMessage)
    else .ok (joinSkips items)
  | d => d.asText

/-- Directories; nothing and the empty list stand for a single empty name, a text for itself. -/
def asDirectories : Datum → Checked (List String)
  | .null => .ok [""]
  | .text s => .ok [s]
  | .list [] | .tuple [] => .ok [""]
  | d => d.asTexts

/-- Checks the value given for a setting, or takes the default. -/
def checkGiven {α : Type} (entries : Entries) (s : Setting) (default : α)
    (check : Datum → Checked α) : Checked α :=
  match s.given? entries with
  | some (key, d) => (check d).under key
  | none => .ok default

/-- Checks all settings except that the pattern for excluded files is not yet compiled. -/
def checkSettings (entries : Entries) : Checked Configuration :=
  ((checkGiven entries .executablePath defaultExecutable asExecutable).both <|
    (checkGiven entries .ruleSkips "" asSkips).both <|
    (checkGiven entries .rulesDirs [""] asDirectories).both <|
    (checkGiven entries .rulesDirDefault false Datum.asFlag).both <|
    (checkGiven entries .excludeDirs [""] asDirectories).both <|
    (checkGiven entries .useProjectConfig false Datum.asFlag).both <|
    (checkGiven entries .blacklist "" Datum.asText).both <|
    (checkGiven entries .displaySeverity false Datum.asFlag).both <|
    checkGiven entries .timeout defaultTimeout Datum.asPositive).map
  fun (executable, skips, rules, keep, excludes, project, blacklist, severity, timeout) =>
    ⟨executable, skips, rules, keep, excludes, project, blacklist, severity, timeout, none⟩

/-- Why values do not make a configuration. -/
inductive Refusal where
  | problems (found : List Problem)
  /-- A pattern is beyond what can be compiled. -/
  | excess (what : Pattern.Excess)
  /-- Among the rules to skip, values stand inside values deeper than calls may nest. -/
  | tooDeep
deriving Repr, DecidableEq

/-- What is said of a text that is not a pattern. -/
def patternComplaint (source : String) (fault : Pattern.Fault) : Complaint :=
  if fault.isMalformed then
    .rejected s!"invalid blacklist pattern {Text.quoted source}: {fault.message source}"
  else .rejected (fault.message source)

/-- Compiles the pattern for excluded files; the empty text is no pattern. -/
def compileExclusion (room : Room) (c : Configuration) : Except Refusal Configuration :=
  if c.blacklist.isEmpty then .ok { c with exclusion := none }
  else
    match Pattern.compile room.patterns c.blacklist with
    | .ok p => .ok { c with exclusion := some p }
    | .error (.excess what) => .error (.excess what)
    | .error fault => .error (.problems [⟨[], patternComplaint c.blacklist fault⟩])

/-- Do calls nest too deep when the rules to skip are written out? -/
def skipsTooDeep (room : Room) (entries : Entries) : Bool :=
  match Setting.given? entries .ruleSkips with
  | some (_, .list items) | some (_, .tuple items) =>
    Datum.firstObstacle? room.values items == some .tooDeep
  | _ => false

/-- Builds a configuration from given values. Calls that nest too deep leave no time for complaints. -/
def ofEntries (room : Room) (entries : Entries) : Except Refusal Configuration :=
  if skipsTooDeep room entries then .error .tooDeep
  else
    match checkSettings entries with
    | .error found => .error (.problems found)
    | .ok c => compileExclusion room c

/-- The name of this kind of value in reports of problems. -/
def modelName : String := "LinterConfig"

/-- Builds a configuration from a value, which must be a table. -/
def ofDatum (room : Room) (d : Datum) : Except Refusal Configuration :=
  match d.asEntries modelName with
  | .error found => .error (.problems found)
  | .ok entries => ofEntries room entries

/-- The values of a configuration under the names of the settings. -/
def toEntries (c : Configuration) : Entries :=
  [(Setting.name .executablePath, .text c.executablePath),
   (Setting.name .ruleSkips, .text c.ruleSkips),
   (Setting.name .rulesDirs, .tuple (c.rulesDirs.map .text)),
   (Setting.name .rulesDirDefault, .flag c.rulesDirDefault),
   (Setting.name .excludeDirs, .tuple (c.excludeDirs.map .text)),
   (Setting.name .useProjectConfig, .flag c.useProjectConfig),
   (Setting.name .blacklist, .text c.blacklist),
   (Setting.name .displaySeverity, .flag c.displaySeverity),
   (Setting.name .timeout, .decimal c.timeout)]

/-- Is the first of the directories a real name? -/
def namesDirectories : List String → Bool
  | [] => false
  | first :: _ => !first.isEmpty

def hasRulesDirs (c : Configuration) : Bool := namesDirectories c.rulesDirs

def hasExcludeDirs (c : Configuration) : Bool := namesDirectories c.excludeDirs

/-- The time limit in thousandths of a second, cut off; an infinite limit has none. -/
def timeLimit? (c : Configuration) : Option Int := (c.timeout.times 1000).truncate?

end Configuration

end PlaybookLint
