import PlaybookLint.Shell.Assignment
import PlaybookLint.Shell.Condition
import PlaybookLint.Shell.Launch
import PlaybookLint.Shell.Script

/-!
The builtins that decide how a script goes on, and those that look for commands.
-/

namespace PlaybookLint.Shell

open PlaybookLint.Shell.Action

/-- The builtins of the plain shell whose faults end the script. -/
def isSpecialBuiltin (dialect : Dialect) (name : Octets) : Bool :=
  let text := String.ofList name
  specialCommands.contains text || dialect == .plain && text == "local"
    || dialect == .extended && text == "source"

/-- The status of a fault. -/
def faultCode (dialect : Dialect) : Nat :=
  match dialect with
  | .plain => 2
  | .extended => 1

/-- The status that a word asks for. -/
def statusWord? (dialect : Dialect) (w : Octets) : Option Nat :=
  match dialect with
  | .plain => (plainNumber? w).filter (· ≤ 2147483647) |>.map (· % 256)
  | .extended => (wholeNumber? w).map fun n => (n.emod 256).toNat

def exitBuiltin (words : List Octets) : Action Unit := do
  let s ← get
  match words with
  | [] => throw (.exit (s.heldStatus.getD s.status))
  | w :: _ =>
    match statusWord? s.dialect w, s.dialect with
    | some code, _ => throw (.exit code)
    | none, .plain => illegal "Illegal number: " w
    | none, .extended => do
      complain (w ++ ofText ": numeric argument required")
      throw (.exit 2)

def returnBuiltin (words : List Octets) : Action Unit := do
  let s ← get
  if s.dialect == .extended && s.frames.isEmpty then
    refuse (ofText "can only \x60return' from a function or sourced script") 2
  else
    match words with
    | [] => throw .back
    | w :: _ =>
      match statusWord? s.dialect w, s.dialect with
      | some code, _ => do
        setStatus code
        throw .back
      | none, .plain => illegal "Illegal number: " w
      | none, .extended => do
        refuse (w ++ ofText ": numeric argument required") 2
        throw .back

/-- Leaves loops or begins the last of them again, as many as a word tells. -/
def loopBuiltin (again : Bool) (words : List Octets) : Action Unit := do
  let s ← get
  setStatus 0
  let w := words.headD ['1']
  match plainNumber? w, s.dialect with
  | some 0, .plain | none, .plain => illegal "Illegal number: " w
  | some 0, .extended => do
    refuse (w ++ ofText ": loop count out of range") 1
    if s.loops != 0 then throw (.leave s.loops)
  | none, .extended => do
    complain (w ++ ofText ": numeric argument required")
    throw (.exit 128)
  | some n, _ =>
    if s.loops == 0 then
      if s.dialect == .extended then
        complain (ofText "only meaningful in a \x60for', \x60while', or \x60until' loop")
    else throw (if again then .again (min n s.loops) else .leave (min n s.loops))

/-- Carries out words joined to a script. -/
def evalBuiltin (run : Runner) (words : List Octets) : Action Unit := do
  let s ← get
  let text := [' '].intercalate (if words.head? == some ['-', '-'] then words.drop 1 else words)
  let line := match s.dialect with
    | .plain => 1
    | .extended => s.line
  if !(← runText run .part line text) then setStatus 0

/-- The path of a script that a name means: along the search path if there is no slash in it. -/
def scriptPath? (s : State) (name : Octets) : Option Octets :=
  if name.contains '/' then some name
  else
    let here : List Octets := if s.dialect == .extended then [name] else []
    (pathsAlong (searchPathOf s) name ++ here).find? (isFileAt s)

/-- Carries out a script in the shell itself. -/
def sourceBuiltin (run : Runner) (words : List Octets) : Action Unit := do
  let s ← get
  match words, s.dialect with
  | [], .plain => setStatus 0
  | [], .extended => refuse (ofText "filename argument required") 2
  | name :: args, dialect =>
    match scriptPath? s name, dialect with
    | none, .plain => illegal (String.ofList name) (ofText ": not found")
    | none, .extended => missing name
    | some path, dialect =>
      match Files.readFile s.system.tree s.place (toText path), dialect with
      | .error errno, .plain =>
        let reason := if errno == .notFound || errno == .notDirectory then "No such file"
          else errno.reason
        illegal "cannot open " (path ++ ofText s!": {reason}")
      | .error .isDirectory, .extended => refuse (path ++ ofText ": is a directory") 1
      | .error _, .extended => missing name
      | .ok content, dialect => carry dialect path args (ofOctets content)
where
  /-- The larger shell leaves out the name of the builtin. -/
  missing (name : Octets) : Action Unit := do
    say ((← complaintStart) ++ name ++ ofText ": No such file or directory\n")
    setStatus 1
  carry (dialect : Dialect) (path : Octets) (args : List Octets) (text : Octets) : Action Unit := do
    let enter (s : State) : State := match dialect with
      | .plain => { s with builtin := some path }
      | .extended => { s with
          builtin := none
          frames := ⟨"source".toList, s.parameters, []⟩ :: s.frames
          parameters := if args.isEmpty then s.parameters else args }
    let leave (before after : State) : State := match dialect with
      | .plain => { after with builtin := before.builtin }
      | .extended => { after with
          builtin := before.builtin
          frames := after.frames.drop 1
          parameters := if args.isEmpty then after.parameters else before.parameters }
    match ← attempt (around enter leave (runText run .part 1 text)) with
    | .ok ran => if !ran then setStatus 0
    | .error .back => return
    | .error e => throw e

/-- Notes whether the first process can still write to a channel. -/
def noteRelease : Action Unit := do
  let s ← get
  if s.process == firstProcess && s.number == firstProcess && !s.inSubshell then
    let keeps := s.descriptors.any fun (_, n) =>
      match s.system.opened.lookup n with
      | some (.sink (.channel _)) => true
      | _ => false
    let since := s.system.released.getD s.system.clock
    modifySystem fun y => { y with released := if keeps then none else some since }

/-- Puts a program in the place of the shell. -/
def execBuiltin (run : Runner) (words : List Octets) : Action Unit := do
  let s ← get
  let words := if s.dialect == .extended && words.head? == some ['-', '-'] then words.drop 1 else words
  match words with
  | [] => setStatus 0
  | name :: args =>
    match findImage s (searchPathOf s) name args with
    | .ok image =>
      noteRelease
      run (.program image)
    | .error fault => do
      let (told, code) := fault.report s.dialect name
      let told := if s.dialect == .extended && fault == .unknown then name ++ ofText ": not found"
        else told
      complain told
      throw (.exit (if fault == .unsuitable name .permission then 126 else code))

/-- What a name stands for. -/
inductive Meaning where
  | keyword
  | alias (text : Octets)
  | function (body : Command)
  | special
  | builtin
  | program (path : Octets) (located : Bool)
  | nothing

/-- Builtins that fall back on the shell as a whole. -/
def furtherBuiltins (dialect : Dialect) : List String :=
  let shared := ["exit", "return", "break", "continue", "eval", ".", "exec", "command", "type", "hash"]
  match dialect with
  | .plain => shared
  | .extended =>
    shared ++ ["source", "builtin", "let", "declare", "typeset", "shopt", "mapfile", "readarray"]

/-- Is there a builtin of the name? -/
def isBuiltin (dialect : Dialect) (name : Octets) : Bool :=
  let text := String.ofList name
  (simpleBuiltin? dialect text).isSome || (furtherBuiltins dialect).contains text

/-- What a name stands for in a state. -/
def meaningOf (s : State) (searchPath name : Octets) : Meaning :=
  if Reader.isKeyword s.dialect name then .keyword
  else
    match s.aliases.lookup name with
    | some text => .alias text
    | none =>
      if s.dialect == .plain && isSpecialBuiltin .plain name then .special
      else
        match s.functions.lookup name with
        | some body => .function body
        | none =>
          if isBuiltin s.dialect name then .builtin
          else
            match programPath? s searchPath name with
            | some path => .program path (s.located.any (·.1 == name))
            | none => .nothing

/-- What is told of a name in a word. -/
def Meaning.brief (name : Octets) : Meaning → Option Octets
  | .alias text => some (ofText "alias " ++ name ++ ['='] ++ quoteText text)
  | .program path _ => some path
  | .nothing => none
  | _ => some name

/-- What is told of a name in a sentence. -/
def Meaning.told (dialect : Dialect) (name : Octets) : Meaning → Option Octets
  | .keyword => some (name ++ ofText " is a shell keyword")
  | .alias text =>
    match dialect with
    | .plain => some (name ++ ofText " is an alias for " ++ text)
    | .extended => some (name ++ ofText " is aliased to \x60" ++ text ++ ['\''])
  | .function _ =>
    match dialect with
    | .plain => some (name ++ ofText " is a shell function")
    | .extended => some (name ++ ofText " is a function")
  | .special => some (name ++ ofText " is a special shell builtin")
  | .builtin => some (name ++ ofText " is a shell builtin")
  | .program path located =>
    match dialect, located with
    | .plain, true => some (name ++ ofText " is a tracked alias for " ++ path)
    | .extended, true => some (name ++ ofText " is hashed (" ++ path ++ [')'])
    | _, false => some (name ++ ofText " is " ++ path)
  | .nothing => none

/-- The kind of a name in one word. -/
def Meaning.kind : Meaning → Option Octets
  | .keyword => some (ofText "keyword")
  | .alias _ => some (ofText "alias")
  | .function _ => some (ofText "function")
  | .special | .builtin => some (ofText "builtin")
  | .program _ _ => some (ofText "file")
  | .nothing => none

/-- Tells what names stand for. -/
def typeBuiltin (words : List Octets) : Action Unit := do
  setStatus 0
  let s ← get
  let (switches, words) := match s.dialect with
    | .plain => ([], words)
    | .extended => takeSwitches ['t', 'p', 'a', 'f', 'P'] words
  for name in words do
    let meaning := meaningOf s (searchPathOf s) name
    if switches.contains 't' then show' meaning.kind
    else if switches.contains 'p' || switches.contains 'P' then
      show' (programPath? s (searchPathOf s) name)
    else
      match meaning.told s.dialect name with
      | some text => output (text ++ ['\n'])
      | none => do
        match s.dialect with
        | .plain => do
          output (name ++ ofText ": not found\n")
          setStatus 127
        | .extended => refuse (name ++ ofText ": not found") 1
where
  show' : Option Octets → Action Unit
    | some text => output (text ++ ['\n'])
    | none => setStatus 1

/-- Tells what a command is. -/
def describeCommand (verbose : Bool) (searchPath : Octets) (words : List Octets) : Action Unit := do
  setStatus 0
  let s ← get
  let words := if s.dialect == .plain then words.take 1 else words
  for name in words do
    let meaning := meaningOf s searchPath name
    match if verbose then meaning.told s.dialect name else meaning.brief name with
    | some text => output (text ++ ['\n'])
    | none => do
      match s.dialect with
      | .plain => do
        if verbose then output (name ++ ofText ": not found\n")
        setStatus 127
      | .extended => do
        if verbose then complain (name ++ ofText ": not found")
        setStatus 1

/-- The chain of a name among those of programs that have been looked for. -/
def locatedChain (name : Octets) : Nat :=
  match name with
  | [] => 0
  | c :: rest => (rest.foldl (fun n d => n + d.toNat) (17 * c.toNat)) % 32768 % 31

/-- Remembers where programs are, or lists them. -/
def hashBuiltin (words : List Octets) : Action Unit := do
  setStatus 0
  let s ← get
  if words.isEmpty then
    let chains := (List.range 31).flatMap fun chain =>
      s.located.reverse.filter fun (name, _) => locatedChain name == chain
    output (chains.flatMap fun (_, path) => path ++ ['\n'])
  else if words.head? == some ['-', 'r'] then modify fun s => { s with located := [] }
  else
    for name in words do
      if name.head? != some '-' && !isBuiltin s.dialect name then
        match programPath? s (searchPathOf s) name with
        | some path => if !name.contains '/' then locate name path
        | none => refuse (name ++ ofText ": not found") 1

/-- Carries out sums; the last one decides. -/
def letBuiltin (run : Runner) (words : List Octets) : Action Unit := do
  if words.isEmpty then refuse (ofText "expression expected") 1
  for w in words do
    let n ← (expander run).sum [.quoted w]
    setStatus (if n == 0 then 1 else 0)

/-- A variable as a command that declares it. -/
def declaration (name : Octets) (v : Variable) : Octets :=
  let letters : Octets :=
    (if v.elements.isSome then [if v.keyed then 'A' else 'a'] else [])
      ++ (if v.integer then ['i'] else []) ++ (if v.readonly then ['r'] else [])
      ++ (if v.exported then ['x'] else [])
  let value : Octets := match v.elements, v.value with
    | some elements, _ =>
      let items := elements.map fun (k, x) => ['['] ++ k ++ [']', '='] ++ doubleQuoted x
      ['=', '('] ++ [' '].intercalate items ++ (if v.keyed && !items.isEmpty then [' ', ')'] else [')'])
    | none, some x => ['='] ++ doubleQuoted x
    | none, none => []
  ofText "declare -" ++ (if letters.isEmpty then ['-'] else letters) ++ [' '] ++ name ++ value ++ ['\n']

/-- Declares variables with properties; in a function they are local to it. -/
def declareVariables (run : Runner) (words : List Octets) : Action Unit := do
  setStatus 0
  let (switches, words) := takeSwitches
    ['a', 'A', 'i', 'r', 'x', 'p', 'g', 'f', 'F', 'l', 'u', 'n'] words
  if switches.contains 'p' then
    for name in words do
      match (← get).declared? name with
      | some v => output (declaration name v)
      | none => refuse (name ++ ofText ": not found") 1
  else if switches.contains 'f' || switches.contains 'F' then
    for name in words do
      if ((← get).functions.lookup name).isSome then output (name ++ ['\n']) else setStatus 1
  else
    for w in words do
      let (name, value) := splitAssignment w
      if !isName name then refuseName w name
      else
        if !(← get).frames.isEmpty && !switches.contains 'g' then makeLocal name
        changeVariable name fun v => { v with
          integer := v.integer || switches.contains 'i'
          keyed := v.keyed || switches.contains 'A'
          elements := if switches.contains 'a' || switches.contains 'A' then
            some (v.elements.getD []) else v.elements }
        match value with
        | some value => do
          let v ← addTo run ((← get).declared? name) [] value false
          assign name v
        | none => pure ()
        if switches.contains 'x' then export_ name
        if switches.contains 'r' then keep name

/-- Reads lines into an array. -/
def mapfileBuiltin (words : List Octets) : Action Unit := do
  setStatus 0
  let (switches, words) := takeSwitches ['t'] words
  match ← readAll 0 with
  | none => refuse (ofText "read error") 1
  | some text =>
    let lines := linesOf text
    let kept := if switches.contains 't' then lines
      else lines.zipIdx.map fun (l, k) =>
        if k + 1 == lines.length && text.getLast? != some '\n' then l else l ++ ['\n']
    setArray (words.headD "MAPFILE".toList) kept

/-- Builtins of which nothing but success is seen. -/
def quietBuiltin (_ : List Octets) : Action Unit := setStatus 0

end PlaybookLint.Shell
