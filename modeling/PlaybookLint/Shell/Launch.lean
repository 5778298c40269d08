import PlaybookLint.Shell.Redirection

/-!
Starting programs from the shell: how the program of a command is found, what it is given, and what is
said if it cannot be started.
-/

namespace PlaybookLint.Shell

open PlaybookLint.Shell.Action

/-- Where programs are looked for if nothing is said about it. -/
def usualSearchPath : Octets := ofText "/usr/local/sbin:/usr/local/bin:/usr/sbin:/usr/bin:/sbin:/bin"

/-- Why the program of a command is not started. -/
inductive LaunchFault where
  /-- There is none of that name along the search path. -/
  | unknown
  /-- What is there along the search path may not be run. -/
  | unsuitable (path : Octets) (errno : Errno)
  /-- What is at a path cannot be run; perhaps it is a directory, perhaps what it is written for is
  not there. -/
  | refused (path : Octets) (errno : Errno) (isDirectory isThere : Bool)
deriving Repr, DecidableEq

/-- What is at a path that a program may be at. -/
def fileAt? (s : State) (path : Octets) : Option Files.Node :=
  (Files.stat s.system.tree s.place (toText path)).toOption

/-- Is there a file at the path, and may it be run? -/
def isFileAt (s : State) (path : Octets) : Bool :=
  match fileAt? s path with
  | some (.file _ _) => true
  | _ => false

def mayRun (s : State) (path : Octets) : Bool :=
  match fileAt? s path with
  | some (.file _ executable) => executable
  | _ => false

/-- The paths that a name may mean along a search path. -/
def pathsAlong (searchPath name : Octets) : List Octets :=
  (splitAt ':' searchPath).map fun directory =>
    if directory.isEmpty then name else directory ++ ['/'] ++ name

def searchPathOf (s : State) : Octets := (s.value? "PATH".toList).getD []

/-- The path of the program that a name means. -/
def programPath? (s : State) (searchPath name : Octets) : Option Octets :=
  if name.contains '/' then (if mayRun s name then some name else none)
  else (pathsAlong searchPath name).find? (mayRun s)

/-- Remembers where a program is. -/
def locate (name path : Octets) : Action Unit :=
  modify fun s =>
    { s with located := if s.located.any (·.1 == name) then s.located else (name, path) :: s.located }

/-- Starts the program at a path. -/
def loadAt (s : State) (called path : Octets) (words : List Octets) :
    Except LaunchFault Program.Image :=
  let text := toText path
  match Program.loadScript s.system.tree s.place s.dialect (toText called) text (words.map toText) with
  | .ok image => .ok image
  | .error e =>
    let node := fileAt? s path
    .error (.refused path e (node == some .directory) node.isSome)

/-- Starts the program of a command. -/
def findImage (s : State) (searchPath name : Octets) (words : List Octets) :
    Except LaunchFault Program.Image :=
  if name.contains '/' then loadAt s name name words
  else
    let paths := pathsAlong searchPath name
    match paths.find? (mayRun s) with
    | some path => loadAt s name path words
    | none =>
      let there : Octets → Bool := match s.dialect with
        | .plain => fun path => (fileAt? s path).isSome
        | .extended => isFileAt s
      match paths.find? there with
      | some path => .error (.unsuitable path .permission)
      | none => .error .unknown

/-- What is said of a fault, and the status it leaves. -/
def LaunchFault.report (dialect : Dialect) (name : Octets) : LaunchFault → Octets × Nat
  | .unknown =>
    match dialect with
    | .plain => (name ++ ofText ": not found", 127)
    | .extended => (name ++ ofText ": command not found", 127)
  | .unsuitable path errno =>
    match dialect with
    | .plain => (name ++ ofText s!": {errno.reason}", 127)
    | .extended => (path ++ ofText s!": {errno.reason}", 126)
  | .refused path errno isDirectory isThere =>
    let missing := errno == .notFound || errno == .notDirectory
    match dialect with
    | .plain =>
      let reason := if missing then "not found" else errno.reason
      (name ++ ofText s!": {reason}", if missing || errno == .linkLoop then 127 else 126)
    | .extended =>
      if isDirectory then (path ++ ofText ": Is a directory", 126)
      else if isThere && missing then (path ++ ofText ": cannot execute: required file not found", 127)
      else (path ++ ofText s!": {errno.reason}", if errno == .notFound then 127 else 126)

/-- Complains that a program cannot be started. -/
def refuseLaunch (name : Octets) (fault : LaunchFault) : Action Nat := do
  let (told, code) := fault.report (← get).dialect name
  complain told
  return code

/-- Carries a program out in a process of its own. -/
def startProgram (run : Runner) (image : Program.Image) : Action Unit := do
  let code ← subshell run (run (.program image))
  setStatus code

/-- The variables of a shell at its beginning: those of its own, then those it is given. -/
def initialVariables (dialect : Dialect) (given : List (Octets × Octets)) (directory : Octets) :
    Variables :=
  let own : Variables := match dialect with
    | .plain =>
      [("IFS", " \t\n"), ("OPTIND", "1"), ("PATH", toText usualSearchPath), ("PPID", "41"),
        ("PS1", "# "), ("PS2", "> "), ("PS4", "+ ")].map fun (k, v) =>
          (k.toList, { value := some v.toList })
    | .extended =>
      [("IFS", " \t\n"), ("OPTIND", "1"), ("PATH", toText usualSearchPath), ("PPID", "41"),
        ("PS4", "+ ")].map fun (k, v) => (k.toList, { value := some v.toList })
  let handedOn (v : Octets) : Variable := { value := some v, exported := true }
  let all := given.foldl (fun vs (k, v) =>
    if k == "IFS".toList || k == "PPID".toList || !isName k then vs
    else State.putVariable vs k (handedOn v)) own
  let all := State.putVariable all "PWD".toList (handedOn directory)
  let all := State.putVariable all "OPTIND".toList { value := some ['1'] }
  match dialect with
  | .plain => all
  | .extended =>
    let level := digitsValue (((given.lookup "SHLVL".toList).filter (·.all isDigit)).getD ['0'])
    State.putVariable all "SHLVL".toList (handedOn (numberText (level + 1)))

/-- The name of the directory that a shell begins in: the one that it is told, if that leads there. -/
def initialDirectory (tree : Files.Tree) (place : Files.Place) (told : Option Octets) : Octets :=
  match told with
  | some path =>
    if path.head? == some '/' && (Files.walk tree place (toText path)).toOption == some place
      && tree.at? place == some .directory then path
    else placeText place
  | none => placeText place

/-- A process that has just begun to carry out a program; it has nothing of its own yet. -/
def State.begin (s : State) (dialect : Dialect) (given : List (Octets × Octets)) (number : Nat)
    (name : Octets) : State :=
  let directory := initialDirectory s.system.tree s.place (given.lookup "PWD".toList)
  { s with
    dialect, number, name, directory
    parameters := []
    bindings := initialVariables dialect given directory
    functions := []
    aliases := []
    documents := []
    switches := {}
    status := 0
    line := 0
    builtin := none
    traps := s.traps.filter (·.action.isEmpty)
    pending := []
    frames := []
    loops := 0
    tested := false
    inSubshell := false
    departing := false
    jobs := []
    outputStatus := none
    heldStatus := none
    gathering := 0
    located := []
    optionPlace := (1, 0) }

end PlaybookLint.Shell
