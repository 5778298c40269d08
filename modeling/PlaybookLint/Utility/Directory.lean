import PlaybookLint.Files.Resolve
import PlaybookLint.Utility.Operand

/-!
Programs that make, move, remove and list files, and those that take paths apart.
-/

namespace PlaybookLint.Utility

open Shell Shell.Action

/-! ### Places -/

/-- The place of what a path names, a link at its end not being followed. -/
def ownPlace (tree : Files.Tree) (cwd : Files.Place) (path : String) : Except Errno Files.Place := do
  let trimmed := String.ofList ((path.toList.reverse.dropWhile (· == '/')).reverse)
  let names := trimmed.splitOn "/"
  let name := names.getLast?.getD ""
  if name.isEmpty || name == "." || name == ".." then Files.walk tree cwd path
  else
    let above := "/".intercalate names.dropLast
    let above := if above.isEmpty then (if Files.isRooted path then "/" else ".") else above
    let parent ← Files.walk tree cwd above
    if tree.at? parent != some .directory then throw .notDirectory
    match tree.at? (parent ++ [name]) with
    | some _ => return parent ++ [name]
    | none => throw .notFound

/-- The tree without a place and all that is below it. -/
def withoutPlace (tree : Files.Tree) (place : Files.Place) : Files.Tree :=
  tree.filter fun (p, _) => p.take place.length != place

/-- What is at a place and below it, at another place. -/
def copiesTo (tree : Files.Tree) (source goal : Files.Place) : Files.Tree :=
  (tree.filter fun (p, _) => p.take source.length == source).map fun (p, node) =>
    (goal ++ p.drop source.length, node)

/-- Puts copies of a place and all below it at another place. -/
def copyPlace (tree : Files.Tree) (source goal : Files.Place) : Files.Tree :=
  (copiesTo tree source goal).reverse.foldl (fun t (p, node) => t.insert p node) tree

/-- The last name of a path. -/
def lastName (path : Octets) : Octets :=
  let trimmed := (path.reverse.dropWhile (· == '/')).reverse
  if trimmed.isEmpty then path.take 1 else ((splitAt '/' trimmed).getLast?).getD []

def changeTree (f : Files.Tree → Files.Tree) : Action Unit :=
  modifySystem fun y => { y with tree := f y.tree }

/-- The text of a reason. -/
def because (errno : Errno) : Octets := ofText s!": {errno.reason}"

/-- The directory that a path leads to, if it leads to one. -/
def directoryOf? (s : State) (path : Octets) : Option Files.Place :=
  (Files.walk s.system.tree s.place (toText path)).toOption.filter fun place =>
    s.system.tree.at? place == some .directory

/-! ### Making and removing -/

def touch (words : List Octets) : Action Unit := do
  let w ← SwitchTable.read { letters := "acmfh", valued := "rtd", long := [("no-create", 'c')] } words
  if w.operands.isEmpty then misused (ofText "missing file operand")
  for path in w.operands do
    let s ← get
    if (Files.stat s.system.tree s.place (toText path)).toOption.isNone && !w.has 'c' then
      match ← createFile path false with
      | .ok _ | .error .exists_ => pure ()
      | .error (.system errno) =>
        refuse (ofText "cannot touch " ++ alwaysQuoted path ++ because errno)

/-- Makes a directory, with those above it if asked for. -/
def makeDirectory (parents : Bool) (path : Octets) : Action (Option Errno) := do
  let s ← get
  let trimmed := (path.reverse.dropWhile (· == '/')).reverse
  if parents then
    let pieces := splitAt '/' trimmed
    for k in List.range pieces.length do
      let part := ['/'].intercalate (pieces.take (k + 1))
      let s ← get
      if !part.isEmpty && (directoryOf? s part).isNone then
        match newPlace? s.system.tree s.place 40 (toText part) with
        | .ok place =>
          if (s.system.tree.at? place).isSome then return some .notDirectory
          else changeTree fun t => t.insert place .directory
        | .error e => return some e
    return none
  else
    match newPlace? s.system.tree s.place 40 (toText trimmed) with
    | .error e => return some e
    | .ok place =>
      changeTree fun t => t.insert place .directory
      return none

def mkdir (words : List Octets) : Action Unit := do
  let long := [("parents", 'p'), ("mode", 'm'), ("verbose", 'v')]
  let w ← SwitchTable.read { letters := "pv", valued := "m", long } words
  if w.operands.isEmpty then misused (ofText "missing operand")
  for path in w.operands do
    let s ← get
    let told := ofText "cannot create directory " ++ quoted s path
    let isThere := (ownPlace s.system.tree s.place (toText path)).toOption.isSome
    if isThere && !(w.has 'p' && (directoryOf? s path).isSome) then
      refuse (told ++ ofText ": File exists")
    else
      match ← makeDirectory (w.has 'p') path with
      | some errno => refuse (told ++ because errno)
      | none =>
        if w.has 'v' then
          put ((← get).name ++ ofText ": created directory " ++ alwaysQuoted path ++ ['\n'])

def rmdir (words : List Octets) : Action Unit := do
  let w ← SwitchTable.read { letters := "pv" } words
  if w.operands.isEmpty then misused (ofText "missing operand")
  for path in w.operands do
    let s ← get
    let told := ofText "failed to remove " ++ alwaysQuoted path
    match ownPlace s.system.tree s.place (toText path) with
    | .error errno => refuse (told ++ because errno)
    | .ok place =>
      if s.system.tree.at? place != some .directory then refuse (told ++ because .notDirectory)
      else if !(namesAt s.system.tree place).isEmpty then
        refuse (told ++ ofText ": Directory not empty")
      else changeTree fun t => withoutPlace t place

def rm (words : List Octets) : Action Unit := do
  let long := [("recursive", 'r'), ("force", 'f'), ("verbose", 'v'), ("dir", 'd')]
  let w ← SwitchTable.read { letters := "rRfvid", long } words
  if w.operands.isEmpty && !w.has 'f' then misused (ofText "missing operand")
  for path in w.operands do
    let s ← get
    let told := ofText "cannot remove " ++ alwaysQuoted path
    match ownPlace s.system.tree s.place (toText path) with
    | .error errno =>
      let missing := errno == .notFound || errno == .notDirectory
      if !(w.has 'f' && missing) then refuse (told ++ because errno)
    | .ok place =>
      let isDirectory := s.system.tree.at? place == some .directory
      if isDirectory && !(w.has 'r' || w.has 'R' || w.has 'd') then
        refuse (told ++ because .isDirectory)
      else
        changeTree fun t => withoutPlace t place
        if w.has 'v' then
          let what := if isDirectory then "removed directory " else "removed "
          put (ofText what ++ alwaysQuoted path ++ ['\n'])

/-- The words of a program that goes from sources to a goal. -/
def sourcesAndGoal (w : Words) : Action (List Octets × Octets) := do
  match w.value? 't', w.operands with
  | some goal, sources => return (sources, goal)
  | none, [] => misused (ofText "missing file operand")
  | none, [one] => misused (ofText "missing destination file operand after " ++ alwaysQuoted one)
  | none, operands => return (operands.dropLast, (operands.getLast?).getD [])

/-- Where something of a name goes to: into a directory, or to a new place. -/
def goalPlace (s : State) (goal name : Octets) (direct : Bool) : Except Errno Files.Place :=
  match if direct then none else directoryOf? s goal with
  | some place => .ok (place ++ [toText name])
  | none =>
    let trimmed := (goal.reverse.dropWhile (· == '/')).reverse
    newPlace? s.system.tree s.place 40 (toText trimmed)

/-- Checks that several things go into a directory. -/
def wantDirectory (sources : List Octets) (goal : Octets) : Action Unit := do
  if 1 < sources.length && (directoryOf? (← get) goal).isNone then
    refuse (ofText "target " ++ alwaysQuoted goal ++ ofText ": No such file or directory")
    throw (.exit 1)

def cp (words : List Octets) : Action Unit := do
  let long := [("recursive", 'r'), ("archive", 'a'), ("force", 'f'), ("no-clobber", 'n'),
    ("target-directory", 't'), ("preserve", 'p')]
  let w ← SwitchTable.read { letters := "rRafnpidvLPHuT", valued := "t", long } words
  let (sources, goal) ← sourcesAndGoal w
  wantDirectory sources goal
  for source in sources do
    let s ← get
    let tree := s.system.tree
    match Files.walk tree s.place (toText source) with
    | .error errno => refuse (ofText "cannot stat " ++ alwaysQuoted source ++ because errno)
    | .ok place =>
      let isDirectory := tree.at? place == some .directory
      if isDirectory && !(w.has 'r' || w.has 'R' || w.has 'a') then
        refuse (ofText "-r not specified; omitting directory " ++ alwaysQuoted source)
      else
        match goalPlace s goal (lastName source) (w.has 'T') with
        | .error errno =>
          let what := if isDirectory then "cannot create directory " else "cannot create regular file "
          refuse (ofText what ++ alwaysQuoted goal ++ because errno)
        | .ok target =>
          let isFree := (tree.at? target).isNone
          if target == place then
            refuse (alwaysQuoted source ++ ofText " and " ++ alwaysQuoted goal
              ++ ofText " are the same file")
          else if isFree || !w.has 'n' then changeTree fun t => copyPlace t place target

def mv (words : List Octets) : Action Unit := do
  let long := [("force", 'f'), ("no-clobber", 'n'), ("target-directory", 't')]
  let w ← SwitchTable.read { letters := "fnivuT", valued := "t", long } words
  let (sources, goal) ← sourcesAndGoal w
  wantDirectory sources goal
  for source in sources do
    let s ← get
    let tree := s.system.tree
    match ownPlace tree s.place (toText source) with
    | .error errno => refuse (ofText "cannot stat " ++ alwaysQuoted source ++ because errno)
    | .ok place =>
      match goalPlace s goal (lastName source) (w.has 'T') with
      | .error errno =>
        refuse (ofText "cannot move " ++ alwaysQuoted source ++ ofText " to " ++ alwaysQuoted goal
          ++ because errno)
      | .ok target =>
        if target == place then
          refuse (alwaysQuoted source ++ ofText " and " ++ alwaysQuoted goal
            ++ ofText " are the same file")
        else if (tree.at? target).isNone || !w.has 'n' then
          changeTree fun t => withoutPlace (copyPlace (withoutPlace t target) place target) place

def ln (words : List Octets) : Action Unit := do
  let long := [("symbolic", 's'), ("force", 'f'), ("no-dereference", 'n')]
  let w ← SwitchTable.read { letters := "sfnvTri", valued := "t", long } words
  match w.operands with
  | [] => misused (ofText "missing file operand")
  | source :: rest =>
    let s ← get
    let goal := rest.headD (lastName source)
    let symbolic := w.has 's'
    let kind := if symbolic then "symbolic" else "hard"
    let direct := w.has 'T' || w.has 'n'
    let intoDirectory := !direct && (directoryOf? s goal).isSome
    let shown := if intoDirectory then goal ++ ['/'] ++ lastName source else goal
    let told := ofText s!"failed to create {kind} link " ++ alwaysQuoted shown
    let target := if intoDirectory then goalPlace s goal (lastName source) false
      else match ownPlace s.system.tree s.place (toText goal) with
        | .ok place => .ok place
        | .error _ => newPlace? s.system.tree s.place 40 (toText goal)
    match target with
    | .error errno => refuse (told ++ because errno)
    | .ok target =>
      if (s.system.tree.at? target).isSome && !w.has 'f' then refuse (told ++ ofText ": File exists")
      else if symbolic then
        changeTree fun t => (withoutPlace t target).insert target (.link (toText source))
      else
        match ownPlace s.system.tree s.place (toText source) with
        | .error errno => refuse (ofText "failed to access " ++ alwaysQuoted source ++ because errno)
        | .ok place =>
          match s.system.tree.at? place with
          | some node => changeTree fun t => (withoutPlace t target).insert target node
          | none => refuse (ofText "failed to access " ++ alwaysQuoted source ++ because .notFound)

/-- Whether a mode lets a file be run. -/
def modeRuns? (old : Bool) (mode : Octets) : Option Bool :=
  if !mode.isEmpty && mode.all isOctal then
    some ((readDigits 8 mode).1 / 64 % 2 == 1)
  else
    (splitAt ',' mode).foldl (fun result part =>
      result.bind fun old =>
        let who := part.takeWhile (['u', 'g', 'o', 'a'].contains ·)
        match part.drop who.length with
        | sign :: rights =>
          if !(['+', '-', '='].contains sign) || !rights.all (['r', 'w', 'x', 'X', 's', 't'].contains ·)
          then none
          else if !(who.isEmpty || who.contains 'u' || who.contains 'a') then some old
          else if sign == '=' then some (rights.contains 'x')
          else if rights.contains 'x' then some (sign == '+') else some old
        | [] => none) (some old)

def chmod (words : List Octets) : Action Unit := do
  let recursive := words.contains ['-', 'R']
  match words.filter fun w => w != ['-', 'R'] && w != ['-', 'v'] && w != ['-', 'f'] with
  | [] => misused (ofText "missing operand")
  | [mode] => misused (ofText "missing operand after " ++ quoted (← get) mode)
  | mode :: paths =>
    if (modeRuns? false mode).isNone then
      misused (ofText "invalid mode: " ++ quoted (← get) mode)
    for path in paths do
      let s ← get
      match Files.walk s.system.tree s.place (toText path) with
      | .error errno => refuse (ofText "cannot access " ++ alwaysQuoted path ++ because errno)
      | .ok place =>
        let isMeant (p : Files.Place) : Bool :=
          p == place || (recursive && p.take place.length == place)
        changeTree fun t => t.map fun (p, node) =>
          match node with
          | .file content runs =>
            (p, if isMeant p then .file content ((modeRuns? runs mode).getD runs) else node)
          | node => (p, node)

/-! ### Listing -/

/-- The names in a directory that are shown. -/
def listedNames (w : Words) (tree : Files.Tree) (place : Files.Place) : List Octets :=
  let names := sortTexts ((namesAt tree place).map ofText)
  let all := if w.has 'a' then [['.'], ['.', '.']] ++ names
    else if w.has 'A' then names else names.filter fun n => n.head? != some '.'
  if w.has 'r' then all.reverse else all

/-- A name with a sign that tells what it is, if asked for. -/
def marked (w : Words) (node : Option Files.Node) (name : Octets) : Octets :=
  match node with
  | some .directory => if w.has 'F' || w.has 'p' then name ++ ['/'] else name
  | some (.link _) => if w.has 'F' then name ++ ['@'] else name
  | some (.file _ true) => if w.has 'F' then name ++ ['*'] else name
  | _ => name

/-- The directories below a directory, each with its path, a directory before those inside it. -/
def directoriesBelow (w : Words) (tree : Files.Tree) :
    Nat → Octets → Files.Place → List (Octets × Files.Place)
  | 0, path, place => [(path, place)]
  | depth + 1, path, place =>
    let inside := (listedNames w tree place).filter fun name =>
      name != ['.'] && name != ['.', '.']
        && tree.at? (place ++ [toText name]) == some .directory
    (path, place) :: inside.flatMap fun name =>
      directoriesBelow w tree depth (path ++ ['/'] ++ name) (place ++ [toText name])

def ls (words : List Octets) : Action Unit := do
  let long := [("all", 'a'), ("almost-all", 'A'), ("directory", 'd'), ("recursive", 'R'),
    ("classify", 'F'), ("reverse", 'r'), ("color", 'G')]
  let w ← SwitchTable.read { letters := "1aAdFprRlhtSCxmnqGsiLkgo", long, code := 2 } words
  let s ← get
  let tree := s.system.tree
  let paths := sortTexts (if w.operands.isEmpty then [['.']] else w.operands)
  let mut files : List Octets := []
  let mut directories : List (Octets × Files.Place) := []
  for path in paths do
    match Files.walk tree s.place (toText path) with
    | .ok place =>
      if tree.at? place == some .directory && !w.has 'd' then
        directories := directories ++
          (if w.has 'R' then directoriesBelow w tree 64 path place else [(path, place)])
      else if (tree.at? place).isSome then files := files ++ [marked w (tree.at? place) path]
      else refuse (ofText "cannot access " ++ alwaysQuoted path ++ because .notFound) 2
    | .error errno =>
      match ownPlace tree s.place (toText path) with
      | .ok place => files := files ++ [marked w (tree.at? place) path]
      | .error _ => refuse (ofText "cannot access " ++ alwaysQuoted path ++ because errno) 2
  for name in files do put (name ++ ['\n'])
  let mut first := files.isEmpty
  for (path, place) in directories do
    if !first then put ['\n']
    if 1 < w.operands.length || w.has 'R' then put (path ++ [':', '\n'])
    for name in listedNames w tree place do
      put (marked w (tree.at? (place ++ [toText name])) name ++ ['\n'])
    first := false

/-! ### Paths -/

def basename (words : List Octets) : Action Unit := do
  let long := [("suffix", 's'), ("multiple", 'a')]
  let w ← SwitchTable.read { letters := "az", valued := "s", long, anywhere := false } words
  let without (ending name : Octets) : Octets :=
    if !ending.isEmpty && ending.length < name.length && name.drop (name.length - ending.length) == ending
    then name.take (name.length - ending.length) else name
  match w.operands with
  | [] => misused (ofText "missing operand")
  | path :: rest =>
    if w.has 'a' || w.has 's' then
      for path in w.operands do put (without ((w.value? 's').getD []) (lastName path) ++ ['\n'])
    else
      match rest with
      | _ :: extra :: _ => misused (ofText "extra operand " ++ quoted (← get) extra)
      | rest => put (without (rest.headD []) (lastName path) ++ ['\n'])

/-- A path without its last name. -/
def directoryPart (path : Octets) : Octets :=
  let trimmed := (path.reverse.dropWhile (· == '/')).reverse
  if trimmed.isEmpty then (if path.isEmpty then ['.'] else ['/'])
  else
    let above := (trimmed.reverse.dropWhile (· != '/')).dropWhile (· == '/')
    if above.isEmpty then (if trimmed.head? == some '/' then ['/'] else ['.']) else above.reverse

def dirname (words : List Octets) : Action Unit := do
  let w ← SwitchTable.read { letters := "z" } words
  if w.operands.isEmpty then misused (ofText "missing operand")
  for path in w.operands do put (directoryPart path ++ ['\n'])

/-- The path of what a path leads to. With `strict` all of it has to be there, otherwise its last name
may be missing. -/
def canonical? (s : State) (strict : Bool) (path : Octets) : Except Errno Octets :=
  let tree := s.system.tree
  match Files.walk tree s.place (toText path) with
  | .ok place => if (tree.at? place).isSome then .ok (placeText place) else .error .notFound
  | .error errno =>
    if strict then .error errno
    else (newPlace? tree s.place 40 (toText path)).map placeText

def readlink (words : List Octets) : Action Unit := do
  let long := [("canonicalize", 'f'), ("canonicalize-existing", 'e'), ("canonicalize-missing", 'm'),
    ("no-newline", 'n')]
  let w ← SwitchTable.read { letters := "femnqsvz", long } words
  if w.operands.isEmpty then misused (ofText "missing operand")
  for path in w.operands do
    let s ← get
    let tail : Octets := if w.has 'n' then [] else ['\n']
    if w.has 'm' then put (ofText (Files.realPath s.system.tree s.place (toText path)).text ++ tail)
    else if w.has 'f' || w.has 'e' then
      match canonical? s (w.has 'e') path with
      | .ok text => put (text ++ tail)
      | .error _ => setStatus 1
    else
      match (ownPlace s.system.tree s.place (toText path)).toOption.bind s.system.tree.at? with
      | some (.link target) => put (ofText target ++ tail)
      | _ => setStatus 1

def realpath (words : List Octets) : Action Unit := do
  let long := [("canonicalize-existing", 'e'), ("canonicalize-missing", 'm'), ("strip", 's')]
  let w ← SwitchTable.read { letters := "emsqLPz", long } words
  if w.operands.isEmpty then misused (ofText "missing operand")
  for path in w.operands do
    let s ← get
    if w.has 'm' then put (ofText (Files.realPath s.system.tree s.place (toText path)).text ++ ['\n'])
    else
      match canonical? s (w.has 'e') path with
      | .ok text => put (text ++ ['\n'])
      | .error errno => refuse (quotedIfNeeded path ++ because errno)

end PlaybookLint.Utility
