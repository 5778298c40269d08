import PlaybookLint.Files.Host
import PlaybookLint.Files.SearchPath

/-!
Finding the program of a command. An absolute path is taken as it is. A name with a slash is looked at
from the current directory, any other is looked for in the directories of the search path.
-/

namespace PlaybookLint.Command

/-- Why a command has no program. -/
inductive LookupFault where
  | noWords
  | notOnPath (name : String)
deriving Repr, DecidableEq

def LookupFault.message : LookupFault → String
  | .noWords => "subprocess command requires at least one argument"
  | .notOnPath name => s!"Executable '{name}' was not found on PATH"

def hasSlash (name : String) : Bool := name.toList.contains '/'

/-- The search path where the environment has none. -/
def usualPath : String := "/bin:/usr/bin"

/-- The program that a name stands for. An empty search path leads nowhere. -/
def locate? (host : Host) (name : String) : Option String :=
  if hasSlash name then if Files.isProgram host.tree host.cwd name then some name else none
  else
    let searchPath := (host.envValue? "PATH").getD usualPath
    if searchPath.isEmpty then none
    else (Files.candidates searchPath name).find? (Files.isProgram host.tree host.cwd)

/-- The words of a command with its program found. -/
def normalize (host : Host) : List String → Except LookupFault (List String)
  | [] => .error .noWords
  | name :: words =>
    let path := Path.ofText name
    if path.isAbsolute then .ok (path.text :: words)
    else
      match locate? host name with
      | some found => .ok (found :: words)
      | none => .error (.notOnPath name)

end PlaybookLint.Command
