import PlaybookLint.Settings.Configuration
import PlaybookLint.Files.Host
import PlaybookLint.Target

/-!
A request to lint one file. The file is named by its absolute path, links resolved; where nothing
else is asked for, the linter works in the directory of that file.
-/

namespace PlaybookLint

structure Request where
  file : Path
  directory : Path
  configuration : Configuration
  projectRoot : Option Path
deriving Repr

namespace Request

/-- The name of this kind of value in reports of problems. -/
def modelName : String := "InvocationRequest"

/-- Why there is no request. -/
inductive Refusal where
  | problems (found : List Problem)
  /-- The file is reached through links that lead back to themselves. -/
  | linkLoop (path : String)
  /-- The file is named from the current directory, which is no longer there. -/
  | noDirectory
  /-- A pattern is beyond what can be compiled. -/
  | excess (what : Pattern.Excess)
  /-- Values stand inside values deeper than calls may nest. -/
  | tooDeep
deriving Repr, DecidableEq

def Refusal.message : Refusal → String
  | .problems found => ProblemReport.text ⟨modelName, found⟩
  | .linkLoop path => Files.ResolveFault.message (.linkLoop path)
  | .noDirectory => Files.ResolveFault.message .noDirectory
  | .excess what => what.message
  | .tooDeep => Pattern.Excess.nesting.message

/-- The absolute path of a file; a path that no file can have is a problem of the value. -/
def checkFile (host : Host) (path : Path) : Except Refusal (Checked Path) :=
  match host.resolve path with
  | .ok file => .ok (.ok file)
  | .error .nullCharacter => .ok (Checked.complain (.rejected Files.ResolveFault.nullCharacter.message))
  | .error (.linkLoop told) => .error (.linkLoop told)
  | .error .noDirectory => .error .noDirectory

/-- A request for a file that is checked together with the other values. -/
def assemble (file : Checked Path) (directory : Checked (Option Path))
    (configuration : Checked Configuration) (projectRoot : Checked (Option Path)) :
    Except Refusal Request :=
  match file.both (directory.both (configuration.both projectRoot)) with
  | .error found => .error (.problems found)
  | .ok (file, directory, configuration, projectRoot) =>
    .ok ⟨file, directory.getD file.parent, configuration, projectRoot⟩

/-- The request to lint a file with a configuration. -/
def ofFile (host : Host) (path : Path) (directory : Option Path) (configuration : Configuration)
    (projectRoot : Option Path) : Except Refusal Request := do
  let file ← checkFile host path
  assemble (file.under "target_file") (.ok directory) (.ok configuration) (.ok projectRoot)

def asPath (d : Datum) : Checked Path := d.asPathText.map Path.ofText

/-- The configuration in a request; what cannot be compiled of a pattern, or nests too deep, spoils the
whole request. -/
def checkConfiguration (room : Room) (d : Datum) : Except Refusal (Checked Configuration) :=
  match Configuration.ofDatum room d with
  | .ok c => .ok (.ok c)
  | .error (.problems found) => .ok (.error found)
  | .error (.excess what) => .error (.excess what)
  | .error .tooDeep => .error .tooDeep

/-- Builds a request from given values. -/
def ofDatum (host : Host) (d : Datum) : Except Refusal Request := do
  let entries ← (d.asEntries modelName).mapError .problems
  let file ← match Datum.required entries "target_file" asPath with
    | .ok path => (checkFile host path).map (Checked.under "target_file")
    | .error found => .ok (.error found)
  let configuration ← match entries.value? "config" with
    | some given => (checkConfiguration host.room given).map (Checked.under "config")
    | none => .ok (.ok .default)
  assemble file
    (Datum.defaulting entries "working_directory" none (Datum.asOptional asPath))
    configuration
    (Datum.defaulting entries "project_root" none (Datum.asOptional asPath))

/-- The file and the place of work, as reports of the linter are read against them. -/
def target (r : Request) : Target := ⟨r.file, r.directory⟩

end Request

end PlaybookLint
