import PlaybookLint.Linter

/-!
A look at the installed linter program: is it a release that is supported? Supported releases have a
tag that older ones lack, so the list of tags tells. The user is warned of an old release; a program
that cannot be run is left for the next attempt at linting to complain of.
-/

namespace PlaybookLint

inductive VersionStatus where
  | supported
  | unsupported
  | unavailable
deriving Repr, DecidableEq

def VersionStatus.name : VersionStatus → String
  | .supported => "supported"
  | .unsupported => "unsupported"
  | .unavailable => "unavailable"

/-- What was found out, and the reason if the program could not be run. -/
structure VersionReport where
  status : VersionStatus
  detail : String
deriving Repr, DecidableEq

namespace VersionCheck

/-- The option that lists the tags. -/
def listTags : String := "-T"

/-- The tag that supported releases have. -/
def marker : String := "repeatability"

/-- The warning about an old release. -/
def upgradeNotice : Notice where
  grade := .warning
  message := "ansible-lint < 3.5 is unsupported. "
    ++ "Backwards compatibility should exist, but is not guaranteed."
  detail := "Please upgrade your version of ansible-lint to >= 3.5.\n"
  dismissable := true

/-- What the list of tags says. -/
def judge (output : ToolOutput) : Run LintFault VersionReport :=
  match output.reason? with
  | some reason => do
    Run.log [.debug .version s!"skipping ansible-lint version check: {reason}"]
    return ⟨.unavailable, reason⟩
  | none =>
    if Text.occurs marker.toList output.stdout.toList then return ⟨.supported, ""⟩
    else do
      Run.notify upgradeNotice
      return ⟨.unsupported, ""⟩

/-- Lists the tags and judges by them. -/
def attempt (l : Linter) (directory : Path) : Run LintFault VersionReport := do
  let call ← Run.ofExcept (Linter.callFor l.configuration [listTags] directory)
  let output ← (l.invoker.run call).mapFault .trouble
  judge output

end VersionCheck

/-- Checks the release of the linter program from a directory. -/
def Linter.checkVersion (l : Linter) (directory : Path) : Run LintFault VersionReport :=
  (VersionCheck.attempt l directory).recover fun fault =>
    if fault.isExpected then do
      Run.log [.debug .linter s!"version check failed: {fault.message}"]
      return ⟨.unavailable, fault.message⟩
    else Run.fail fault

/-- Checks the release of the linter program from the current directory, if there is one. -/
def Linter.activate (l : Linter) (host : Host) : Run LintFault VersionReport :=
  match host.cwdPath with
  | .ok directory => l.checkVersion directory
  | .error gone => do
    Run.log [.debug .linter s!"version check failed: {gone.message}"]
    return ⟨.unavailable, gone.message⟩

end PlaybookLint
