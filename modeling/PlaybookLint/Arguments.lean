import PlaybookLint.Settings.Configuration

/-!
The argument list of the linter program. A project's own file of settings stands in place of skipped
rules, rule directories and excluded directories; the linted file comes last.
-/

namespace PlaybookLint.Arguments

/-- Where a project keeps its own settings for the linter. -/
def projectConfigPath (root : String) : String := s!"{root}/{Configuration.projectFileName}"

/-- The project's own settings are wanted, but no project is known. -/
inductive Refusal where
  | noProjectRoot
deriving Repr, DecidableEq

def Refusal.message : Refusal → String
  | .noProjectRoot => "project_root is required when use_project_config is enabled"

def skips (c : Configuration) : List String :=
  if c.ruleSkips.isEmpty then [] else ["-x", c.ruleSkips]

def rules (c : Configuration) : List String :=
  if c.hasRulesDirs then
    (if c.rulesDirDefault then ["-R"] else []) ++ c.rulesDirs.flatMap (["-r", ·])
  else []

def excludes (c : Configuration) : List String :=
  if c.hasExcludeDirs then c.excludeDirs.flatMap (["--exclude", ·]) else []

/-- The arguments that say which rules apply and where. -/
def selection (c : Configuration) (root : Option String) : Except Refusal (List String) :=
  if c.useProjectConfig then
    match root with
    | none => .error .noProjectRoot
    | some root => .ok ["-c", projectConfigPath root]
  else .ok (skips c ++ rules c ++ excludes c)

/-- The argument list for a file. -/
def build (c : Configuration) (target : String) (root : Option String) :
    Except Refusal (List String) :=
  (selection c root).map fun selected =>
    ["-p", "--nocolor"] ++ (if c.displaySeverity then ["--parseable-severity"] else [])
      ++ selected ++ [target]

end PlaybookLint.Arguments
