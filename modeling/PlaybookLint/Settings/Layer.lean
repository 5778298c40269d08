import PlaybookLint.Settings.Source
import PlaybookLint.Log

/-!
Layers of settings. Sources are read in order; for each setting the source that mentions it last
wins, under whatever name, and everything is checked once at the end.
-/

namespace PlaybookLint.Settings

/-- The entries under the settings' own names; of several names for one setting the last wins. -/
def canonical (fragment : Entries) : Entries :=
  Entries.putAll [] (fragment.map fun (key, value) => (Setting.canonicalKey key, value))

/-- What is logged of a source that mentions something. -/
def applied (source : Source) (fragment : Entries) : List LogRecord :=
  if fragment.isEmpty then []
  else [.debug .settings s!"applying configuration from {source.describe}"]

/-- The settings of all sources on top of those merged so far, and what is logged on the way. -/
def merge (host : Host) : List Source → Entries → List LogRecord × Except Fault Entries
  | [], merged => ([], .ok merged)
  | source :: rest, merged =>
    match source.load host with
    | .error fault => ([], .error fault)
    | .ok fragment =>
      let (log, result) := merge host rest (merged.putAll (canonical fragment))
      (applied source fragment ++ log, result)

/-- The configuration that the sources make together, and what is logged on the way. -/
def load (host : Host) (sources : List Source) : List LogRecord × Except Fault Configuration :=
  let (log, merged) := merge host sources []
  (log, merged.bind fun entries =>
    (Configuration.ofEntries host.room entries).mapError Fault.ofRefusal)

/-- The name of a file of settings of their own. -/
def fileName : String := ".ansible-lint-adapter.toml"

/-- A file that refers to the environment of the host. -/
def hostFile (host : Host) (path : Path) : Source := .file path path.text host.envValue?

/-- Is the file there? -/
def isThere (host : Host) (path : Path) : Except Fault Bool :=
  (host.probe path).mapError .inaccessible

/-- The source in the project's own file, if that is there. -/
def projectSources (host : Host) (project : Path) : Except Fault (List Source) := do
  if ← isThere host project then return [.section_ project project.text host.envValue?]
  else return []

/-- The source in a file that is named explicitly, and must be there. -/
def explicitSources (host : Host) : Option Path → Except Fault (List Source)
  | none => .ok []
  | some path => do
    if ← isThere host path then return [hostFile host path] else throw (.missing path.text)

/-- The sources for a project: defaults, the user's file, the project's section and file, and a file
named explicitly. The root must be in its absolute form. -/
def sourcesFor (host : Host) (root : Path) (userFile explicit : Option Path) :
    Except Fault (List Source) := do
  let user ← match userFile, host.home? with
    | some path, _ => pure path
    | none, some home => pure (home.child fileName)
    | none, none => throw .homeless
  let sections ← projectSources host (root.child "pyproject.toml")
  let extra ← explicitSources host explicit
  return [.defaults, hostFile host user] ++ sections ++ [hostFile host (root.child fileName)] ++ extra

end PlaybookLint.Settings
