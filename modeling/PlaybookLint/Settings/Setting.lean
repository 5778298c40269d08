import PlaybookLint.Datum

/-!
The settings of a lint run and the names under which they may be given: a name of words joined by
underscores, the same with hyphens, and the name that editors use.
-/

namespace PlaybookLint

inductive Setting where
  | executablePath
  | ruleSkips
  | rulesDirs
  | rulesDirDefault
  | excludeDirs
  | useProjectConfig
  | blacklist
  | displaySeverity
  | timeout
deriving Repr, DecidableEq

namespace Setting

/-- All settings, in the order in which they are checked. -/
def all : List Setting :=
  [.executablePath, .ruleSkips, .rulesDirs, .rulesDirDefault, .excludeDirs, .useProjectConfig,
    .blacklist, .displaySeverity, .timeout]

/-- The name of a setting. -/
def name : Setting → String
  | .executablePath => "executable_path"
  | .ruleSkips => "rule_skips"
  | .rulesDirs => "rules_dirs"
  | .rulesDirDefault => "rules_dir_default"
  | .excludeDirs => "exclude_dirs"
  | .useProjectConfig => "use_project_config"
  | .blacklist => "blacklist"
  | .displaySeverity => "display_severity"
  | .timeout => "timeout"

/-- The name that editors use. -/
def hostName : Setting → String
  | .executablePath => "ansibleLintExecutablePath"
  | .ruleSkips => "ruleSkips"
  | .rulesDirs => "rulesDirs"
  | .rulesDirDefault => "rulesDirDefault"
  | .excludeDirs => "excludeDirs"
  | .useProjectConfig => "useProjectConfig"
  | .blacklist => "blacklist"
  | .displaySeverity => "displaySeverity"
  | .timeout => "timeout"

/-- The setting that editors know by a name. -/
def ofHostName? (key : String) : Option Setting := all.find? (·.hostName == key)

/-- A name with underscores for hyphens. -/
def underscored (key : String) : String :=
  String.ofList (key.toList.map fun c => if c == '-' then '_' else c)

/-- The name that a key stands for: the setting's own for a name that editors use, and otherwise the
key itself with underscores for hyphens. -/
def canonicalKey (key : String) : String :=
  match ofHostName? key with
  | some s => s.name
  | none => underscored key

/-- The value given for a setting with the key it was given under; its own name goes before the name
that editors use. -/
def given? (entries : Entries) (s : Setting) : Option (String × Datum) :=
  match entries.value? s.name with
  | some d => some (s.name, d)
  | none => (entries.value? s.hostName).map (s.hostName, ·)

end Setting

end PlaybookLint
