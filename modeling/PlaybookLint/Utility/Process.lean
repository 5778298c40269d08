import PlaybookLint.Utility.Operand
import PlaybookLint.Shell.Launch

/-!
Programs that start other programs, and those that let time go by.
-/

namespace PlaybookLint.Utility

open Shell Shell.Action

/-- The program that words name, along the search path of the process. -/
def imageOf (s : State) (name : Octets) (words : List Octets) : Except Errno Program.Image :=
  match findImage s ((s.value? "PATH".toList).getD usualSearchPath) name words with
  | .ok image => .ok image
  | .error .unknown => .error .notFound
  | .error (.unsuitable _ errno) => .error errno
  | .error (.refused _ errno _ _) => .error errno

/-- The status of a program that cannot be started. -/
def launchCode (errno : Errno) : Nat := if errno == .notFound then 127 else 126

/-- Puts a program in the place of this one; `told` is what is said before the reason if that is not
possible. -/
def become (run : Runner) (told : State → Octets) (name : Octets) (words : List Octets) :
    Action Unit := do
  let s ← get
  match imageOf s name words with
  | .ok image => run (.program image)
  | .error errno => do
    notice (told s ++ ofText s!": {errno.reason}")
    throw (.exit (launchCode errno))

/-! ### The environment -/

/-- Sets a variable that is handed on. -/
def hand (name value : Octets) : Action Unit :=
  modify fun s =>
    let v : Variable := { value := some value, exported := true }
    { s with bindings := State.putVariable s.bindings name v }

/-- Takes the assignments at the beginning of words. -/
def takeSettings : List Octets → Action (List Octets)
  | [] => return []
  | w :: rest => do
    match splitAssignment w with
    | (name, some value) => do
      hand name value
      takeSettings rest
    | (_, none) => return w :: rest

def showEnvironment : Action Unit := do
  let s ← get
  put (s.environment.flatMap fun (name, value) => name ++ ['='] ++ value ++ ['\n'])

def env (run : Runner) (words : List Octets) : Action Unit := do
  let long := [("ignore-environment", 'i'), ("unset", 'u'), ("chdir", 'C'), ("split-string", 'S'),
    ("null", '0')]
  let words := match words with
    | ('-' :: 'S' :: text) :: rest => (splitAt ' ' text).filter (!·.isEmpty) ++ rest
    | ['-'] :: rest => ['-', 'i'] :: rest
    | words => words
  let table : SwitchTable := { letters := "i0v", valued := "uC", long, anywhere := false, code := 125 }
  let w ← table.read words
  if w.has 'i' then modify fun s => { s with bindings := [] }
  for (c, name) in w.switches do
    if c == 'u' then modify fun s => { s with bindings := s.bindings.filter (·.1 != name) }
    else if c == 'C' then
      let s ← get
      match Files.walk s.system.tree s.place (toText name) with
      | .ok place => set { s with place }
      | .error errno => do
        notice (ofText "cannot change directory to " ++ quoted s name ++ ofText s!": {errno.reason}")
        throw (.exit 125)
  match ← takeSettings w.operands with
  | [] => showEnvironment
  | name :: rest => become run (fun s => quoted s name) name rest

def printenv (words : List Octets) : Action Unit := do
  let w ← SwitchTable.read { letters := "0", anywhere := false, code := 2 } words
  if w.operands.isEmpty then showEnvironment
  for name in w.operands do
    match (← get).environment.lookup name with
    | some value => put (value ++ ['\n'])
    | none => setStatus 1

/-! ### Time -/

/-- Thousandths of a second that a word tells: a decimal with a letter for its unit. Nothing stands for
all time. -/
def duration? (w : Octets) : Option (Option Nat) :=
  if String.ofList (w.map lowerOf) == "inf" || String.ofList (w.map lowerOf) == "infinity" then
    some none
  else
    let whole := w.takeWhile isDigit
    let (fraction, rest) : Octets × Octets := match w.drop whole.length with
      | '.' :: rest => (rest.takeWhile isDigit, rest.dropWhile isDigit)
      | rest => ([], rest)
    let unit? : Option Nat := match rest with
      | [] | ['s'] => some 1
      | ['m'] => some 60
      | ['h'] => some 3600
      | ['d'] => some 86400
      | _ => none
    if whole.isEmpty && fraction.isEmpty then none
    else
      let scale := Nat.pow 10 fraction.length
      let value := digitsValue (whole ++ fraction) * 1000
      unit?.map fun unit => some ((value * unit + scale - 1) / scale)

def sleep (words : List Octets) : Action Unit := do
  let w ← SwitchTable.read { letters := "" } words
  if w.operands.isEmpty then misused (ofText "missing operand")
  let s ← get
  let bad := w.operands.filter fun v => (duration? v).isNone
  for v in bad do notice (ofText "invalid time interval " ++ quoted s v)
  if !bad.isEmpty then seeHelp
  for v in w.operands do
    match duration? v with
    | some (some time) => waitUntil ((← now) + time)
    | _ => throw .never

/-- Drops what has been written in the name of a process after a time, and gives the rest to another
one. -/
def cutAfter (process other time : Nat) : Action Unit :=
  modifySystem fun y => { y with
    written := (y.written.filter fun w => w.process != process || w.time < time).map fun w =>
      if w.process == process then { w with process := other } else w
    held := y.held.filter fun h => h.process != process }

def timeout (run : Runner) (words : List Octets) : Action Unit := do
  let long := [("signal", 's'), ("kill-after", 'k'), ("preserve-status", 'p'), ("foreground", 'f'),
    ("verbose", 'v')]
  let table : SwitchTable := { letters := "pfv", valued := "sk", long, anywhere := false, code := 125 }
  let w ← table.read words
  match w.operands with
  | limit :: name :: rest => do
    let s ← get
    let signal ← match w.value? 's' with
      | none => pure 15
      | some text =>
        match signalOf? .extended text with
        | some n => pure n
        | none => misused (quoted s text ++ ofText ": invalid signal") 125
    match duration? limit with
    | none => misused (ofText "invalid time interval " ++ quoted s limit) 125
    | some limit => do
      let image ← match imageOf s name rest with
        | .ok image => pure image
        | .error errno => do
          notice (ofText "failed to run command " ++ quoted s name ++ ofText s!": {errno.reason}")
          throw (.exit (launchCode errno))
      let start ← now
      let process ← fresh
      let steps := s.system.steps
      modifySystem fun y => { y with steps := steps / 2 }
      let result ← attempt (subshell run do
        modify fun s => { s with process }
        run (.program image))
      modifySystem fun y => { y with steps := y.steps + (steps - steps / 2) }
      let late (until' : Nat) : Action Unit := do
        cutAfter process s.process until'
        modifySystem fun y => { y with clock := until' }
        if signal == 9 then throw (.killed s.number 9)
        setStatus (if w.has 'p' then 128 + signal else 124)
      match result, limit.filter (· != 0) with
      | .ok code, none => setStatus code
      | .ok code, some limit =>
        if (← now) < start + limit then setStatus code else late (start + limit)
      | .error .never, some limit => late (start + limit)
      | .error e, _ => throw e
  | _ => seeHelp 125

/-- Starts a program that a signal does not end. -/
def nohup (run : Runner) (words : List Octets) : Action Unit := do
  match words with
  | [] => misused (ofText "missing operand") 125
  | name :: rest => do
    modify fun s => { s with traps := ⟨1, []⟩ :: s.traps }
    become run (fun _ => ofText "failed to run command " ++ alwaysQuoted name) name rest

/-- Starts a program after switches that change nothing that is seen. -/
def startPlainly (run : Runner) (valued : String) (words : List Octets) : Action Unit := do
  let w ← SwitchTable.read { letters := "wfc", valued, anywhere := false, code := 125 } words
  match w.operands with
  | [] => return
  | name :: rest => become run (fun s => quoted s name) name rest

/-! ### Many programs -/

/-- The items of a text: words, with quotes and backslashes as a shell would read them. -/
def itemsOf (s : Octets) : List Octets := go (s.length + 1) none s
where
  go : Nat → Option Octets → Octets → List Octets
    | 0, _, _ => []
    | _, item, [] => (item.map List.reverse).toList
    | fuel + 1, item, c :: rest =>
      if isBlank c || c == '\n' then (item.map List.reverse).toList ++ go fuel none rest
      else if c == '\'' || c == '"' then
        let inside := rest.takeWhile (· != c)
        go fuel (some (inside.reverse ++ item.getD [])) (rest.drop (inside.length + 1))
      else if c == '\\' then go fuel (some ((rest.take 1) ++ item.getD [])) (rest.drop 1)
      else go fuel (some (c :: item.getD [])) rest

/-- A text with another one in place of each mark. -/
def substituted (mark instead : Octets) : Nat → Octets → Octets
  | 0, s => s
  | _, [] => []
  | fuel + 1, c :: rest =>
    if !mark.isEmpty && mark.isPrefixOf (c :: rest) then
      instead ++ substituted mark instead fuel ((c :: rest).drop mark.length)
    else c :: substituted mark instead fuel rest

/-- Starts a program for each group of words, one after the other. -/
def eachGroup (run : Runner) (name : Octets) : List (List Octets) → Action Unit
  | [] => return
  | words :: rest => do
    let s ← get
    match imageOf s name words with
    | .error errno => do
      notice (name ++ ofText s!": {errno.reason}")
      throw (.exit (launchCode errno))
    | .ok image => do
      let before := s.status
      let code ← subshell run do
        connect 0 (← openAs (.stream [] (some (← now))))
        run (.program image)
      if code == 255 then
        notice (name ++ ofText ": exited with status 255; aborting")
        throw (.exit 124)
      setStatus (if code == 0 then before else 123)
      eachGroup run name rest

def xargs (run : Runner) (words : List Octets) : Action Unit := do
  let long := [("null", '0'), ("no-run-if-empty", 'r'), ("max-args", 'n'), ("replace", 'I'),
    ("max-lines", 'L'), ("delimiter", 'd'), ("max-procs", 'P')]
  let w ← SwitchTable.read { letters := "0rtp", valued := "nIPLds", long, anywhere := false } words
  let text := (← readAll 0).getD []
  let command := if w.operands.isEmpty then ["echo".toList] else w.operands
  let name := command.headD []
  let fixed := command.drop 1
  let pieces (c : Char) : List Octets :=
    let all := splitAt c text
    if all.getLast? == some [] then all.dropLast else all
  let items := if w.has '0' then pieces '\x00'
    else match w.value? 'd' with
      | some d => pieces ((unescape (.word .extended) d).1.headD '\n')
      | none => itemsOf text
  match w.value? 'I' with
  | some mark =>
    let lines := ((linesOf text).map (·.dropWhile isBlank)).filter (!·.isEmpty)
    eachGroup run name (lines.map fun line =>
      fixed.map fun word => substituted mark line (word.length + 1) word)
  | none =>
    let groups := match w.value? 'n', w.value? 'L' with
      | some n, _ => chunks (digitsValue n) (items.length + 1) items
      | none, some n => (chunks (digitsValue n) (text.length + 1) (linesOf text)).map fun ls =>
        ls.flatMap itemsOf
      | none, none => if items.isEmpty then [] else [items]
    let groups := if groups.isEmpty && !w.has 'r' then [[]] else groups
    eachGroup run name (groups.map (fixed ++ ·))
where
  chunks (size : Nat) : Nat → List Octets → List (List Octets)
    | 0, _ => []
    | _, [] => []
    | fuel + 1, all => all.take (max size 1) :: chunks size fuel (all.drop (max size 1))

/-- Tells where programs are. -/
def which (words : List Octets) : Action Unit := do
  let all := words.contains ['-', 'a']
  for name in words.filter (·.head? != some '-') do
    let s ← get
    let searchPath := (s.value? "PATH".toList).getD usualSearchPath
    let found := if name.contains '/' then [name] else pathsAlong searchPath name
    let runs := found.filter (mayRun s)
    if runs.isEmpty then setStatus 1
    for path in if all then runs else runs.take 1 do put (path ++ ['\n'])

/-- Sends signals to other processes. -/
def kill (words : List Octets) : Action Unit := do
  match ← takeSignal words with
  | none => return
  | some (signal, targets) =>
    for target in targets do
      let s ← get
      if s.ancestors.any fun a => numberText a.number == target then
        raiseSignal.toAncestor (digitsValue target) signal
      else refuse (['('] ++ target ++ ofText "): No such process")

end PlaybookLint.Utility
