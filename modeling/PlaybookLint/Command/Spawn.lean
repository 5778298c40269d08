import PlaybookLint.Command.Lookup
import PlaybookLint.Command.Options

/-!
Starting the program of a command. The directory is changed first; a program that is named by a path
is then looked up from there.
-/

namespace PlaybookLint.Command

/-- Why a program does not start. -/
inductive SpawnFault where
  | refused (fault : AccessFault)
  | nullCharacter
  /-- A variable of the environment has an equals sign in its name. -/
  | illegalVariable
  /-- A value of the environment is no text. -/
  | notText (kind : String)
deriving Repr, DecidableEq

def SpawnFault.message : SpawnFault → String
  | .refused fault => fault.message
  | .nullCharacter => "embedded null byte"
  | .illegalVariable => "illegal environment variable name"
  | .notText kind => s!"expected str, bytes or os.PathLike object, not {kind}"

/-- Is there a null character in a text? -/
def hasNull (s : String) : Bool := s.toList.contains '\x00'

/-- The directory that a command is run in. -/
def enter (host : Host) : Option Path → Except SpawnFault Files.Place
  | none => .ok host.cwd
  | some path =>
    match Files.walk host.tree host.cwd path.text with
    | .error errno => .error (.refused ⟨errno, path.text⟩)
    | .ok place =>
      match host.tree.at? place with
      | some .directory => .ok place
      | some (.barred why _) => .error (.refused ⟨why, path.text⟩)
      | _ => .error (.refused ⟨.notDirectory, path.text⟩)

/-- The variables that entries set, one after the other: a name has no equals sign, and a value is a
text. -/
def variablesOf : Entries → Except SpawnFault (List (String × String))
  | [] => .ok []
  | (name, value) :: rest =>
    if name.toList.contains '=' then .error .illegalVariable
    else
      match value with
      | .text s => (variablesOf rest).map ((name, s) :: ·)
      | other => .error (.notText other.kindName)

/-- What the name of a program may mean when it is started. -/
def paths (env : List (String × String)) (name : String) : List String :=
  if hasSlash name then [name]
  else Files.candidates ((env.lookup "PATH").getD usualPath) name

/-- A program that has been started, where, and its environment. -/
structure Started where
  image : Program.Image
  directory : Files.Place
  env : List (String × String)
deriving Repr, DecidableEq

/-- Starts the program of a command whose words begin with its name. -/
def spawn (host : Host) (o : Options) (name : String) (words : List String) :
    Except SpawnFault Started := do
  let own ← o.env.mapM variablesOf
  let given := own.getD []
  let texts := name :: words ++ (o.cwd.map Path.text).toList ++ given.map (·.1) ++ given.map (·.2)
  if texts.any hasNull then throw .nullCharacter
  let env := own.getD host.env
  let directory ← enter host o.cwd
  let loadAt (path : String) :=
    Program.load host.machine.native host.tree directory name path words
  match Program.loadFirst loadAt .notFound (paths env name) with
  | .ok image => return ⟨image, directory, env⟩
  | .error errno => throw (.refused ⟨errno, name⟩)

end PlaybookLint.Command
