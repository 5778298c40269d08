import PlaybookLint.Files.SearchPath
import PlaybookLint.Shell.Builtin

/-!
Where commands read from and write to. Redirections are carried out in order; the ones of a command
are undone when it has ended.
-/

namespace PlaybookLint.Shell

open PlaybookLint.Shell.Action

/-- The place that a new file at a path gets: that of the file that is there, or one in the directory
above it. A link that leads nowhere yet is followed. -/
def newPlace? (tree : Files.Tree) (cwd : Files.Place) : Nat → String → Except Errno Files.Place
  | 0, _ => .error .linkLoop
  | fuel + 1, path =>
    match Files.walk tree cwd path with
    | .ok place => .ok place
    | .error .notFound =>
      let parts := path.splitOn "/"
      let parent := "/".intercalate parts.dropLast
      let parent := if parent.isEmpty then (if Files.isRooted path then "/" else ".") else parent
      match Files.walk tree cwd parent, parts.getLast? with
      | .ok directory, some name =>
        if name.isEmpty then .error .isDirectory
        else if tree.at? directory != some .directory then .error .notDirectory
        else
          match tree.at? (directory ++ [name]) with
          | some (.link target) => newPlace? tree directory fuel target
          | _ => .ok (directory ++ [name])
      | .error e, _ => .error e
      | _, none => .error .notFound
    | .error e => .error e

/-- Why a file is not opened. -/
inductive OpenFault where
  | system (errno : Errno)
  | exists_
deriving Repr, DecidableEq

/-- Puts a file without content at a path, unless there is one; its place. -/
def createFile (path : Octets) (empties : Bool) : Action (Except OpenFault Files.Place) := do
  let s ← get
  match newPlace? s.system.tree s.place 40 (toText path) with
  | .error e => return .error (.system e)
  | .ok place =>
    match s.system.tree.at? place with
    | some .directory => return .error (.system .isDirectory)
    | some (.file _ _) => do
      if empties then modifySystem fun y => { y with tree := putContent y.tree place [] }
      return .ok place
    | _ => do
      modifySystem fun y => { y with tree := y.tree.insert place (.file [] false) }
      return .ok place

/-- The descriptor that a path in the directory of devices stands for. -/
def devicePath? (path : Octets) : Option Nat :=
  match String.ofList path with
  | "/dev/stdin" => some 0
  | "/dev/stdout" => some 1
  | "/dev/stderr" => some 2
  | _ =>
    if (ofText "/dev/fd/").isPrefixOf path then plainNumber? (path.drop 8) else none

/-- What the shell says of a file that it cannot open. -/
def openRefusal (dialect : Dialect) (creates : Bool) (path : Octets) : OpenFault → Octets
  | .exists_ =>
    match dialect with
    | .plain => ofText "cannot create " ++ path ++ ofText ": File exists"
    | .extended => path ++ ofText ": cannot overwrite existing file"
  | .system e =>
    match dialect with
    | .plain =>
      let missing := e == .notFound || e == .notDirectory
      let reason := if !missing then e.reason
        else if creates then "Directory nonexistent" else "No such file"
      ofText (if creates then "cannot create " else "cannot open ") ++ path ++ ofText s!": {reason}"
    | .extended => path ++ ofText s!": {e.reason}"

/-- Opens a file for a redirection. -/
def openFor (kind : RedirectKind) (path : Octets) : Action (Except OpenFault Opened) := do
  let s ← get
  match kind with
  | .read =>
    match Files.walk s.system.tree s.place (toText path) with
    | .error e => return .error (.system e)
    | .ok place =>
      if (s.system.tree.at? place).isNone then return .error (.system .notFound)
      else return .ok (.file place 0 false true false)
  | .readWrite => return (← createFile path false).map fun place => .file place 0 false true true
  | .append | .appendBoth =>
    return (← createFile path false).map fun place => .file place 0 true false true
  | _ =>
    let isThere := (Files.stat s.system.tree s.place (toText path)).toOption.isSome
    if s.switches.keepsFiles && kind == .write && isThere && toText path != "/dev/null" then
      return .error .exists_
    else return (← createFile path true).map fun place => .file place 0 false false true

/-- A redirection that has not been possible: what is said of it. -/
abbrev Refused := Octets

/-- Leads a descriptor to where another one leads. -/
def duplicate (fd : Nat) (target : Octets) : Action (Option Refused) := do
  if target == ['-'] then
    disconnect fd
    return none
  else
    let moves := (← get).dialect == .extended && target.getLast? == some '-'
    let digits := if moves then target.dropLast else target
    match plainNumber? digits with
    | none => giveUp (ofText "Syntax error: Bad fd number")
    | some n =>
      match (← get).descriptors.lookup n with
      | none => return some (target ++ ofText ": Bad file descriptor")
      | some number => do
        connect fd number
        if moves && n != fd then disconnect n
        return none

/-- Opens a file and leads descriptors to it. -/
def connectFile (kind : RedirectKind) (fds : List Nat) (path : Octets) : Action (Option Refused) := do
  match devicePath? path with
  | some n => do
    for fd in fds do
      let _ ← duplicate fd (numberText n)
    return none
  | none =>
    match ← openFor kind path with
    | .error fault => return some (openRefusal (← get).dialect (kind != .read) path fault)
    | .ok o => do
      let number ← openAs o
      for fd in fds do connect fd number
      return none

/-- Leads a descriptor to a text. -/
def connectText (fd : Nat) (text : Octets) : Action Unit := do
  let time ← now
  connect fd (← openAs (.stream (text.map (time, ·)) (some time)))

/-- Carries out a redirection; tells what is said if it is not possible. -/
def redirectOne (run : Runner) : Redirect → Action (Option Refused)
  | .mk _ fd kind target => do
    match kind with
    | .document number => do
      let word := ((← get).documents.lookup number).getD []
      let text ← (expander run).text word
      connectText (fd.getD 0) text
      return none
    | .inline => do
      connectText (fd.getD 0) ((← expandText run target) ++ ['\n'])
      return none
    | .duplicate => do
      let text ← expandText run target
      let numeric := (plainNumber? (if text.getLast? == some '-' then text.dropLast else text)).isSome
        || text == ['-']
      if (← get).dialect == .extended && !numeric && fd == some 1 then
        connectFile .writeBoth [1, 2] text
      else duplicate (fd.getD 1) text
    | .writeBoth | .appendBoth => connectFile kind [1, 2] (← expandText run target)
    | .read | .readWrite => connectFile kind [fd.getD 0] (← expandText run target)
    | _ => connectFile kind [fd.getD 1] (← expandText run target)

/-- Is the error channel itself led to where another descriptor leads? The plain shell has closed it
by the time that it finds out that this is not possible. -/
def Redirect.silencesErrors : Redirect → Bool
  | .mk _ fd kind _ => fd == some 2 && kind == .duplicate

/-- Carries out redirections up to one that is not possible, which is complained about. -/
def redirectAll (run : Runner) : List Redirect → Action Bool
  | [] => return true
  | r :: rest => do
    match ← redirectOne run r with
    | none => redirectAll run rest
    | some refused => do
      if !(r.silencesErrors && (← get).dialect == .plain) then complain refused
      return false

/-- The descriptors that a redirection changes. -/
def Redirect.fds : Redirect → List Nat
  | .mk _ fd kind _ =>
    match kind with
    | .writeBoth | .appendBoth => [1, 2]
    | .read | .readWrite | .document _ | .inline => [fd.getD 0]
    | .duplicate => if fd == some 1 then [1, 2] else [fd.getD 1]
    | _ => [fd.getD 1]

/-- The descriptors as they were before some were changed. -/
def restoreDescriptors (changed : List Nat) (before after : List (Nat × Nat)) : List (Nat × Nat) :=
  before.filter (changed.contains ·.1) ++ after.filter (!changed.contains ·.1)

/-- Forgets what has been opened since, unless it is still used. -/
def closeUnused (since : Nat) : Action Unit :=
  modify fun s =>
    let used (n : Nat) : Bool := n < since || s.descriptors.any (·.2 == n)
    { s with system := { s.system with opened := s.system.opened.filter (used ·.1) } }

/-- Carries something out with redirections, which are undone afterwards. -/
def withRedirects (run : Runner) (rs : List Redirect) (act refused : Action Unit) : Action Unit := do
  if rs.isEmpty then act
  else
    let line := (← get).line
    let since := (← get).system.nextNumber
    let changed := rs.flatMap Redirect.fds
    let leave (before after : State) : State :=
      { after with descriptors := restoreDescriptors changed before.descriptors after.descriptors }
    around id leave do
      if ← redirectAll run rs then
        modify fun s => { s with line }
        act
      else refused
    closeUnused since

end PlaybookLint.Shell
