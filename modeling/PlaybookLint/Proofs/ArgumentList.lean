import PlaybookLint.Arguments

/-!
What an argument list says, and how it is read back. Values may be any texts, also ones that look like
flags. They are told apart all the same by a reader that goes from left to right: a value stands right
behind its flag, the sections come in one order, and since the target is always left at the end, the
last argument is never a flag.
-/

namespace PlaybookLint.Arguments

/-! ### What a list says -/

/-- Directories, of which there is at least one. -/
structure Directories where
  first : String
  others : List String
deriving Repr, DecidableEq

/-- Where it is settled which rules apply to what: in a file of the project, or by skipped rules, rule
directories with or without the default rules beside them, and excluded directories. -/
inductive Selection where
  | project (file : String)
  | own (skipped : Option String) (rules : Option (Bool × Directories))
      (excluded : Option Directories)
deriving Repr, DecidableEq

/-- What the linter program is told. -/
structure Meaning where
  severity : Bool
  selection : Selection
  target : String
deriving Repr, DecidableEq

namespace Directories

/-- Directories that are configured; if the first has no name, none are. -/
def configured : List String → Option Directories
  | [] => none
  | first :: others => if first.isEmpty then none else some ⟨first, others⟩

/-- The names of directories, if there are any. -/
def names : Option Directories → List String
  | none => []
  | some d => d.first :: d.others

/-- The directories with given names. -/
def ofNames : List String → Option Directories
  | [] => none
  | first :: others => some ⟨first, others⟩

end Directories

/-- Rules to skip, if there are any. -/
def skipped (c : Configuration) : Option String :=
  if c.ruleSkips.isEmpty then none else some c.ruleSkips

/-- What a configuration has the program told of a target. Without a root there is nothing to tell if
the project's own settings are wanted. -/
def meaning (c : Configuration) (target : String) (root : Option String) : Option Meaning :=
  if c.useProjectConfig then
    root.map fun root => ⟨c.displaySeverity, .project (projectConfigPath root), target⟩
  else
    some ⟨c.displaySeverity,
      .own (skipped c) ((Directories.configured c.rulesDirs).map (c.rulesDirDefault, ·))
        (Directories.configured c.excludeDirs), target⟩

/-! ### Writing -/

/-- Each value behind the flag. -/
def valued (flag : String) (values : List String) : List String := values.flatMap ([flag, ·])

def flagged (flag : String) (set : Bool) : List String := if set then [flag] else []

def Selection.write : Selection → List String
  | .project file => valued "-c" [file]
  | .own skipped rules excluded =>
    valued "-x" skipped.toList ++ flagged "-R" ((rules.map Prod.fst).getD false)
      ++ valued "-r" (Directories.names (rules.map Prod.snd))
      ++ valued "--exclude" (Directories.names excluded)

def Meaning.write (m : Meaning) : List String :=
  ["-p", "--nocolor"] ++ flagged "--parseable-severity" m.severity ++ m.selection.write ++ [m.target]

/-- Is the flag in front? The last argument is no flag. -/
def readFlag (flag : String) : List String → Bool × List String
  | first :: second :: rest =>
    if first = flag then (true, second :: rest) else (false, first :: second :: rest)
  | rest => (false, rest)

/-- The values behind a flag as often as it is in front, as long as something is left behind them. -/
def readValues (flag : String) : List String → List String × List String
  | first :: value :: rest =>
    if first = flag ∧ rest ≠ [] then
      let (values, left) := readValues flag rest
      (value :: values, left)
    else ([], first :: value :: rest)
  | rest => ([], rest)

def readSelection (arguments : List String) : Selection × List String :=
  match readValues "-c" arguments with
  | (file :: _, left) => (.project file, left)
  | ([], left) =>
    let (skipped, left) := readValues "-x" left
    let (keep, left) := readFlag "-R" left
    let (rules, left) := readValues "-r" left
    let (excluded, left) := readValues "--exclude" left
    (.own skipped.head? ((Directories.ofNames rules).map (keep, ·)) (Directories.ofNames excluded),
      left)

/-- Reads an argument list from left to right. -/
def read : List String → Option Meaning
  | "-p" :: "--nocolor" :: rest =>
    let (severity, left) := readFlag "--parseable-severity" rest
    match readSelection left with
    | (selection, [target]) => some ⟨severity, selection, target⟩
    | _ => none
  | _ => none

/-! ### What is written is read back -/

end PlaybookLint.Arguments
