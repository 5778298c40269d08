import PlaybookLint.Shell.Control
import PlaybookLint.Utility

/-!
Carrying out commands. What is nested in a command is carried out by a runner that may go one level
less deep; loops go round as long as steps are left. A script that runs out of either does not come
to an end.
-/

namespace PlaybookLint.Shell

open PlaybookLint.Shell.Action

/-- Carries out what is only looked at: failure in it does not end the script. -/
def testing (act : Action Unit) : Action Unit :=
  around (fun s => { s with tested := true, departing := false })
    (fun before after => { after with tested := before.tested, departing := before.departing }) act

/-- Carries out what is not the last thing that the shell does. -/
def staying (act : Action Unit) : Action Unit :=
  around (fun s => { s with departing := false })
    (fun before after => { after with departing := before.departing }) act

def succeeded : Action Bool := return (← get).status == 0

/-- Carries out what is to be done when a command has failed, if there is something. It is nothing that
functions do. -/
def answerFailure (run : Runner) : Action Unit := do
  let s ← get
  if s.frames.isEmpty then
    match s.traps.find? fun t => t.signal == failureEvent && !t.action.isEmpty with
    | none => return
    | some t =>
      around (fun s => { s with tested := true })
        (fun before after => { after with tested := before.tested, status := before.status })
        (run (.script t.action))

/-- Deals with the failure of a command: it may end the script. -/
def checkFailure (run : Runner) : Action Unit := do
  let s ← get
  if !s.tested && s.status != 0 then
    answerFailure run
    if s.switches.exitsOnFailure then throw (.exit s.status)

/-- Carries out commands one after the other. -/
def runAll (run : Runner) : List Command → Action Unit
  | [] => return
  | [c] => run (.command c)
  | c :: rest => do
    staying (run (.command c))
    runAll run rest

/-! ### Loops -/

/-- How a turn of a loop has ended. -/
inductive Turn where
  | done
  | again
  | left
deriving Repr, DecidableEq

/-- Carries out a part of a turn. -/
def turn (act : Action Unit) : Action Turn := do
  match ← attempt act with
  | .ok () => return .done
  | .error (.leave n) =>
    if n ≤ 1 then return .left else throw (.leave (n - 1))
  | .error (.again n) =>
    if n ≤ 1 then return .again else throw (.again (n - 1))
  | .error e => throw e

/-- Carries out a loop, inside which there is one more to be left. -/
def looping (act : Action Unit) : Action Unit :=
  around (fun s => { s with loops := s.loops + 1, departing := false })
    (fun before after => { after with loops := before.loops, departing := before.departing }) act

/-- Goes round as long as a test tells to; `status` is that of the last turn. -/
def loopFrom (run : Runner) (untilTrue : Bool) (test body : List Command) : Nat → Nat → Action Unit
  | 0, _ => throw .never
  | steps + 1, status => do
    tick
    match ← turn (testing (run (.commands test))) with
    | .left => setStatus 0
    | .again => loopFrom run untilTrue test body steps 0
    | .done =>
      if (← succeeded) == untilTrue then setStatus status
      else
        match ← turn (run (.commands body)) with
        | .left => setStatus 0
        | .again => loopFrom run untilTrue test body steps 0
        | .done => do loopFrom run untilTrue test body steps (← get).status

/-- Goes round once for each value of a variable. -/
def eachFrom (run : Runner) (name : Octets) (body : List Command) :
    List Octets → Nat → Action Unit
  | [], status => setStatus status
  | v :: rest, _ => do
    assign name v
    match ← turn (run (.commands body)) with
    | .left => setStatus 0
    | .again => eachFrom run name body rest 0
    | .done => do eachFrom run name body rest (← get).status

/-- Goes round as long as a sum is not zero. -/
def countFrom (run : Runner) (test step : Word) (body : List Command) : Nat → Nat → Action Unit
  | 0, _ => throw .never
  | steps + 1, status => do
    tick
    let n ← if test.isEmpty then pure 1 else (expander run).sum test
    if n == 0 then setStatus status
    else
      match ← turn (run (.commands body)) with
      | .left => setStatus 0
      | t => do
        let ended := (← get).status
        let _ ← if step.isEmpty then pure 0 else (expander run).sum step
        countFrom run test step body steps (if t == .again then 0 else ended)

/-! ### Processes side by side -/

/-- Carries something out with half of the steps that are left. -/
def withHalf {α : Type} (act : Action α) : Action (Except Interruption α) := do
  let steps := (← get).system.steps
  modifySystem fun y => { y with steps := steps / 2 }
  let result ← attempt act
  modifySystem fun y => { y with steps := y.steps + (steps - steps / 2) }
  return result

/-- The end of two things that both have to end. -/
def laterEnd : Option Nat → Option Nat → Option Nat
  | some a, some b => some (max a b)
  | _, _ => none

/-- When nobody holds a sink any more, `finish` being the end of who writes to it. -/
def releaseOf (s : State) (sink : Sink) (finish : Option Nat) : Option Nat :=
  ((s.system.held.filter (·.sink == sink)).map (·.finish)).foldl laterEnd finish

/-- A part of a pipeline that has been carried out. -/
structure PipePart where
  status : Nat
  finish : Option Nat

/-- Carries out a part of a pipeline; what it reads and writes may be connected to its neighbours. -/
def runPart (run : Runner) (c : Command) (input outputs : Option Nat) : Action PipePart := do
  let act : Action Unit := do
    match input with
    | some n => connect 0 n
    | none => pure ()
    match outputs with
    | some n => connect 1 n
    | none => pure ()
    run (.command c)
  match ← withHalf (subshell run act) with
  | .ok status => return ⟨status, some (← now)⟩
  | .error .never => return ⟨141, none⟩
  | .error e => throw e

/-- Carries out the parts of a pipeline, each from the same time on. What one writes comes to the next
when it is written. A part that never ends, but writes, ends when the next one has. -/
def runParts (run : Runner) (start : Nat) : List Command → Option Nat → Action (List PipePart)
  | [], _ => return []
  | [c], input => do
    modifySystem fun y => { y with clock := start }
    return [← runPart run c input none]
  | c :: rest, input => do
    modifySystem fun y => { y with clock := start }
    let n ← fresh
    let number ← openAs (.sink (.inner n))
    let part ← runPart run c input (some number)
    let release := releaseOf (← get) (.inner n) part.finish
    modifySystem fun y => { y with held := y.held.filter (·.sink != .inner n) }
    let pieces ← gather (.inner n)
    let data := pieces.flatMap fun (time, octets) => octets.map (time, ·)
    let next ← openAs (.stream data release)
    let parts ← runParts run start rest (some next)
    let finish := if part.finish.isNone && !data.isEmpty then (parts.head?.bind (·.finish))
      else part.finish
    return { part with finish } :: parts

/-- Carries out a pipeline: it ends when all of its parts have ended. -/
def runPipeline (run : Runner) (cs : List Command) : Action Unit := do
  let start ← now
  let parts ← runParts run start cs none
  let s ← get
  let last := ((parts.getLast?).map (·.status)).getD 0
  let failed := (parts.reverse.find? (·.status != 0)).map (·.status)
  setStatus (if s.switches.failsInPipes then failed.getD 0 else last)
  if s.dialect == .extended then
    setArray "PIPESTATUS".toList (parts.map fun p => numberText p.status)
  match (parts.map (·.finish)).foldl laterEnd (some start) with
  | some time => modifySystem fun y => { y with clock := time }
  | none => throw .never

/-- The descriptors that redirections lead away from where they led. -/
def leadAway (kept : List (Nat × Nat)) : List Redirect → List (Nat × Nat)
  | [] => kept
  | .mk _ fd kind target :: rest =>
    let without (fds : List Nat) : List (Nat × Nat) := kept.filter (!fds.contains ·.1)
    match kind with
    | .duplicate =>
      let fd := fd.getD 1
      match (Word.bare? target).bind plainNumber? with
      | some n =>
        match kept.lookup n with
        | some number => leadAway ((fd, number) :: without [fd]) rest
        | none => leadAway (without [fd]) rest
      | none => leadAway (without [fd]) rest
    | kind => leadAway (without (Redirect.fds (.mk 0 fd kind []))) rest

/-- The descriptors that a command which is not waited for keeps as they are. -/
def keptBy (descriptors : List (Nat × Nat)) : Command → List (Nat × Nat)
  | .simple _ _ _ rs => leadAway descriptors rs
  | .redirected _ _ rs => leadAway descriptors rs
  | _ => descriptors

/-- Carries out a command that is not waited for: the script goes on at the same time. -/
def runBackground (run : Runner) (c : Command) : Action Unit := do
  let start ← now
  let s ← get
  let number ← fresh
  let empty ← openAs (.stream [] (some start))
  let act : Action Unit := do
    modify fun s => { s with process := number }
    connect 0 empty
    run (.command c)
  let (status, finish, endedBy) ← match ← withHalf (subshell run act) with
    | .ok status => pure (status, some (← now), none)
    | .error .never => pure (0, none, none)
    | .error e => throw e
  let sinks := ((keptBy s.descriptors c).filterMap fun (_, n) => s.system.opened.lookup n).filterMap
    fun
      | .sink sink => some sink
      | _ => none
  modifySystem fun y => { y with
    clock := start
    held := sinks.map (⟨number, ·, finish⟩) ++ y.held }
  modify fun s => { s with jobs := ⟨number, status, finish, endedBy⟩ :: s.jobs, status := 0 }

/-! ### Simple commands -/

/-- Variables as they were before, as far as names are concerned. -/
def restoreNames (names : List Octets) (before after : Variables) : Variables :=
  names.foldl (fun vs name =>
    match before.lookup name with
    | some v => State.putVariable vs name v
    | none => vs.filter (·.1 != name)) after

/-- Carries out assignments that hold for one command only; it is handed on what they set. -/
def withAssignments (run : Runner) (assignments : List Assignment)
    (act : List Octets → Action Unit) : Action Unit := do
  if assignments.isEmpty then act []
  else
    let names := assignments.map Assignment.name
    let leave (before after : State) : State :=
      { after with bindings := restoreNames names before.bindings after.bindings }
    around id leave do
      let assigned ← assignments.mapM fun a => do
        let text ← carryOut run a
        export_ a.name
        return text
      act assigned

/-- How many functions may be at work, one called by the other. -/
def callLimit : Nat := 1000

/-- Functions call each other too deeply. -/
def refuseCall : Action Unit := giveUp (ofText s!"Maximum function recursion depth ({callLimit}) reached")

/-- Carries out a function with parameters of its own. What it has made local is as before then. -/
def callFunction (run : Runner) (name : Octets) (body : Command) (words : List Octets) :
    Action Unit := do
  let enter (s : State) : State :=
    { s with frames := ⟨name, s.parameters, []⟩ :: s.frames, parameters := words, loops := 0
             departing := false, optionPlace := if s.dialect == .plain then (1, 0) else s.optionPlace }
  let leave (before after : State) : State :=
    let saved := (after.frames.head?.map (·.saved)).getD []
    let bindings := saved.foldl (fun vs (name, v) =>
      match v with
      | some v => State.putVariable vs name v
      | none => vs.filter (·.1 != name)) after.bindings
    { after with
      bindings
      frames := after.frames.drop 1
      parameters := before.parameters
      loops := before.loops
      departing := before.departing
      optionPlace := if before.dialect == .plain then before.optionPlace else after.optionPlace }
  let s ← get
  if s.dialect == .plain && callLimit ≤ s.frames.length then refuseCall
  else
    match ← attempt (around enter leave (run (.command body))) with
    | .ok () | .error .back => return
    | .error e => throw e

/-- The builtin of a name, with what it falls back on. -/
def builtin? (run : Runner) (dialect : Dialect) (name : String) : Option (List Octets → Action Unit) :=
  match name with
  | "exit" => some exitBuiltin
  | "return" => some returnBuiltin
  | "break" => some (loopBuiltin false)
  | "continue" => some (loopBuiltin true)
  | "eval" => some (evalBuiltin run)
  | "." => some (sourceBuiltin run)
  | "exec" => some (execBuiltin run)
  | "type" => some typeBuiltin
  | "hash" => some hashBuiltin
  | "command" => some quietBuiltin
  | _ =>
    match simpleBuiltin? dialect name with
    | some act => some act
    | none =>
      if dialect == .plain then none
      else
        match name with
        | "source" => some (sourceBuiltin run)
        | "let" => some (letBuiltin run)
        | "declare" | "typeset" => some (declareVariables run)
        | "mapfile" | "readarray" => some mapfileBuiltin
        | "shopt" | "builtin" | "enable" | "disown" | "history" => some quietBuiltin
        | _ => none

/-- Carries out a builtin under its name. A fault of one that belongs to the language ends the script
of the plain shell. -/
def callBuiltin (special : Bool) (name : Octets) (act : Action Unit) : Action Unit := do
  let enter (s : State) : State := { s with builtin := some name }
  let leave (before after : State) : State := { after with builtin := before.builtin }
  match ← attempt (around enter leave act) with
  | .ok () => return
  | .error .failed => do
    let dialect := (← get).dialect
    if special && dialect == .plain then throw .failed else setStatus (faultCode dialect)
  | .error e => throw e

/-- A command with the words before it that change how it is looked for taken off. -/
structure Called where
  name : Octets
  words : List Octets
  /-- Functions are passed over. -/
  direct : Bool
  searchPath : Octets
  /-- It is only told what the command is. -/
  describes : Option Bool

/-- Takes words off that tell how a command is looked for. -/
def Called.of (dialect : Dialect) (searchPath : Octets) :
    Nat → Bool → Octets → List Octets → Called
  | 0, direct, name, words => ⟨name, words, direct, searchPath, none⟩
  | fuel + 1, direct, name, words =>
    let whole : Called := ⟨name, words, direct, searchPath, none⟩
    match String.ofList name, words with
    | "command", words =>
      let (switches, rest) := takeSwitches ['p', 'v', 'V'] words
      let searchPath := if switches.contains 'p' then usualSearchPath else searchPath
      if switches.contains 'V' then { whole with words := rest, searchPath, describes := some true }
      else if switches.contains 'v' then
        { whole with words := rest, searchPath, describes := some false }
      else
        match rest with
        | [] => whole
        | name :: words => of dialect searchPath fuel true name words
    | "builtin", name :: words =>
      if dialect == .extended then of dialect searchPath fuel true name words else whole
    | _, _ => whole

/-- Carries out a command whose words are expanded and whose redirections are done. -/
def carryOutCommand (run : Runner) (c : Called) (special : Bool) : Action Unit := do
  let s ← get
  match c.describes with
  | some verbose =>
    callBuiltin false "command".toList (describeCommand verbose c.searchPath c.words)
  | none =>
    let text := String.ofList c.name
    let functions := if c.direct || special && s.dialect == .plain then [] else s.functions
    match functions.lookup c.name, builtin? run s.dialect text with
    | some body, _ => callFunction run c.name body c.words
    | none, some act => callBuiltin special c.name (act c.words)
    | none, none =>
      match findImage s c.searchPath c.name c.words with
      | .error fault => do setStatus (← refuseLaunch c.name fault)
      | .ok image =>
        if !c.name.contains '/' then
          locate c.name ((programPath? s c.searchPath c.name).getD [])
        if s.departing && s.traps.all (·.action.isEmpty) then run (.program image)
        else startProgram run image

/-- Carries out a command without words: its assignments hold from then on. -/
def bareCommand (run : Runner) (assignments : List Assignment) (rs : List Redirect) : Action Unit := do
  let s ← get
  let errors := s.descriptors.lookup 2
  withRedirects run rs
    (do
      let assigned ← assignments.mapM (carryOut run)
      if !assigned.isEmpty then trace run errors assigned []
      setStatus ((← get).outputStatus.getD 0))
    (setStatus (faultCode s.dialect))

/-- Redirects the shell itself from now on. -/
def redirectShell (run : Runner) (assignments : List Assignment) (rs : List Redirect) :
    Action Unit := do
  let s ← get
  let errors := s.descriptors.lookup 2
  if ← redirectAll run rs then
    noteRelease
    let assigned ← assignments.mapM (carryOut run)
    trace run errors assigned ["exec".toList]
    setStatus 0
  else if s.dialect == .plain then throw .failed
  else throw (.exit 1)

/-- Carries out a simple command. -/
def runSimple (run : Runner) (line : Nat) (assignments : List Assignment) (words : List Word)
    (rs : List Redirect) : Action Unit := do
  modify fun s => { s with line, outputStatus := none }
  let fields ← expandWords run words
  let s ← get
  match fields with
  | [] => bareCommand run assignments rs
  | name :: args =>
    let c := Called.of s.dialect (searchPathOf s) (args.length + 1) false name args
    let special := !c.direct && isSpecialBuiltin s.dialect c.name
    let errors := s.descriptors.lookup 2
    let refused : Action Unit :=
      if special && s.dialect == .plain then throw .failed else setStatus (faultCode s.dialect)
    if c.name == "exec".toList && c.words.isEmpty then redirectShell run assignments rs
    else if s.dialect == .extended && Reader.takesAssignments.contains (String.ofList c.name) then
      withRedirects run rs
        (do
          trace run errors [] fields
          carryOutCommand run c special
          let code := (← get).status
          for a in assignments do
            let _ ← carryOut run a
          setStatus code)
        refused
    else if special && s.dialect == .plain then
      withRedirects run rs
        (do
          let assigned ← assignments.mapM fun a => do
            let text ← carryOut run a
            if c.name == "exec".toList then export_ a.name
            return text
          trace run errors assigned fields
          carryOutCommand run c special)
        refused
    else
      withRedirects run rs
        (withAssignments run assignments fun assigned => do
          trace run errors assigned fields
          carryOutCommand run c special)
        refused
  checkFailure run

/-! ### All commands -/

/-- Does a pattern among some stand for the text? -/
def anyAdmits (run : Runner) (text : Octets) : List Word → Action Bool
  | [] => return false
  | w :: rest => do
    if (← expandGlob run w).admits text then return true else anyAdmits run text rest

/-- Carries out the first arm with a pattern that stands for the text; `last` is how the last arm that
has been carried out goes on. -/
def runChoice (run : Runner) (text : Octets) : Option Continuation →
    List (List Word × List Command × Continuation) → Action Unit
  | last, [] => if last.isNone then setStatus 0 else return
  | last, (patterns, body, goesOn) :: rest => do
    if ← (if last == some .fallThrough then pure true else anyAdmits run text patterns) then
      if body.isEmpty then setStatus 0 else run (.commands body)
      if goesOn != .stop then runChoice run text (some goesOn) rest
    else runChoice run text last rest

/-- The fields of the words of a loop. -/
def loopFields (run : Runner) (words : List Word) : Action (List Octets) := do
  let words := if (← get).dialect == .extended then words.flatMap expandBraces else words
  return (← words.mapM (expandFields run)).flatten

def runCommand (run : Runner) : Command → Action Unit
  | .simple line assignments words rs => runSimple run line assignments words rs
  | .redirected line body rs => do
    modify fun s => { s with line }
    let dialect := (← get).dialect
    staying (withRedirects run rs (run (.command body)) (setStatus (faultCode dialect)))
    checkFailure run
  | .pipeline parts => do
    staying (runPipeline run parts)
    checkFailure run
  | .background body => staying (runBackground run body)
  | .negated body => do
    testing (run (.command body))
    setStatus (if ← succeeded then 1 else 0)
  | .both first second => do
    testing (run (.command first))
    if ← succeeded then run (.command second)
  | .either first second => do
    testing (run (.command first))
    if !(← succeeded) then run (.command second)
  | .group body => run (.commands body)
  | .subshell line body => do
    modify fun s => { s with line }
    let code ← subshell run (run (.commands body))
    setStatus code
    checkFailure run
  | .branch test consequence otherwise => do
    testing (run (.commands test))
    if ← succeeded then run (.commands consequence)
    else if otherwise.isEmpty then setStatus 0
    else run (.commands otherwise)
  | .loop untilTrue test body => do
    let steps := (← get).system.steps
    looping (loopFrom run untilTrue test body (steps + 1) 0)
  | .each line name words body => do
    modify fun s => { s with line }
    let fields ← match words with
      | none => pure (← get).parameters
      | some words => loopFields run words
    looping (eachFrom run name body fields 0)
  | .choice line subject arms => do
    modify fun s => { s with line }
    runChoice run (← expandText run subject) none arms
  | .define name body => modify fun s =>
    { s with functions := (name, body) :: s.functions.filter (·.1 != name), status := 0 }
  | .condition line condition => do
    modify fun s => { s with line }
    setStatus 0
    let fits ← holds run condition
    if ← succeeded then setStatus (if fits then 0 else 1)
    checkFailure run
  | .arithmetic line expression => do
    modify fun s => { s with line }
    let n ← (expander run).sum expression
    setStatus (if n == 0 then 1 else 0)
    checkFailure run
  | .counted line start test step body => do
    modify fun s => { s with line }
    let _ ← if start.isEmpty then pure 0 else (expander run).sum start
    let steps := (← get).system.steps
    looping (countFrom run test step body (steps + 1) 0)

/-! ### Programs -/

/-- The words that a shell is started with, read from the front. -/
structure Invocation where
  /-- The script is one of the words. -/
  fromWord : Bool := false
  /-- The script is read from the input. -/
  fromInput : Bool := false

/-- Takes the switches off the words of a shell. -/
def takeInvocation (dialect : Dialect) : Nat → Invocation → List Octets →
    Action (Invocation × List Octets)
  | 0, i, words => return (i, words)
  | _, i, [] => return (i, [])
  | fuel + 1, i, w :: rest => do
    match w with
    | ['-', '-'] | ['-'] => return (i, rest)
    | '-' :: '-' :: name =>
      if dialect == .extended then takeInvocation dialect fuel i rest
      else illegal "Illegal option --" name *> return (i, rest)
    | '-' :: letters => letter true letters fuel i rest
    | '+' :: letters => letter false letters fuel i rest
    | _ => return (i, w :: rest)
where
  letter (on : Bool) (letters : Octets) (fuel : Nat) (i : Invocation) (rest : List Octets) :
      Action (Invocation × List Octets) := do
    turnLetters on (letters.filter fun c => !(['c', 's', 'i', 'l'].contains c))
    let i := { i with
      fromWord := i.fromWord || letters.contains 'c'
      fromInput := i.fromInput || letters.contains 's' }
    if letters.contains 'o' then
      match rest with
      | name :: rest => do
        turnNamed on name
        takeInvocation dialect fuel i rest
      | [] => return (i, [])
    else takeInvocation dialect fuel i rest

/-- What a shell says of a script that it cannot read. -/
def refuseOpening (dialect : Dialect) (path : Octets) (errno : Errno) : Action Unit := do
  match dialect with
  | .plain => do
    let missing := errno == .notFound || errno == .notDirectory
    let reason := if missing then "No such file" else errno.reason
    illegal "cannot open " (path ++ ofText s!": {reason}")
  | .extended => do
    say ((← get).name ++ ofText ": " ++ path ++ ofText s!": {errno.reason}\n")
    throw (.exit (if errno == .isDirectory then 126 else 127))

/-- Carries out the script of a shell. -/
def runShell (run : Runner) (dialect : Dialect) (words : List Octets) : Action Unit := do
  let (i, words) ← takeInvocation dialect (words.length + 1) {} words
  if i.fromWord then
    match words with
    | [] =>
      match dialect with
      | .plain => illegal "-c requires an argument" []
      | .extended => do
        say ((← get).name ++ ofText ": -c: option requires an argument\n")
        throw (.exit 2)
    | script :: rest => do
      modify fun s => { s with
        name := rest.headD s.name, parameters := rest.drop 1, departing := true
        switches := { s.switches with minusRest := if dialect == .extended then ['c'] else [] } }
      let _ ← runText run .word 1 script
  else
    match i.fromInput, words with
    | false, path :: args => do
      let s ← get
      match Files.readFile s.system.tree s.place (toText path) with
      | .error errno => refuseOpening dialect path errno
      | .ok content => do
        set { s with name := path, parameters := args }
        let _ ← runText run .whole 1 (ofOctets content)
    | _, words => do
      modify fun s => { s with
        parameters := words, switches := { s.switches with minusRest := ['s'] } }
      let script := (← readAll 0).getD []
      let _ ← runText run .whole 1 script

/-- Puts a program in the place of the process. It is given the variables that are handed on. -/
def becomeProgram (run : Runner) (image : Program.Image) : Action Unit := do
  let s ← get
  let number ← if s.inSubshell then fresh else pure s.number
  let given := s.environment
  let called := ofText image.called
  let words := image.words.map ofText
  match Program.tools.lookup image.runner with
  | none => throw (.exit 126)
  | some (.shell dialect) => do
    set (s.begin dialect given number called)
    let result ← attempt (runShell run dialect words)
    throw (.exit (← conclude run result))
  | some (.utility name) => do
    let bindings := given.map fun (k, v) => (k, { value := some v, exported := true })
    set { s.begin .extended given number called with bindings }
    setStatus 0
    match ← attempt (Utility.perform run name words) with
    | .ok () => do throw (.exit (← get).status)
    | .error .failed => throw (.exit 1)
    | .error e => throw e

/-- Carries out a job, nested jobs by a runner. -/
def perform (run : Runner) : Job → Action Unit
  | .commands cs => runAll run cs
  | .command c => do
    tick
    if !(← get).switches.readsOnly then
      runCommand run c
      answerSignals run
  | .script text => do
    let s ← get
    let _ ← runText run .part (if s.dialect == .plain then 1 else s.line) text
  | .program image => becomeProgram run image

/-- Carries out jobs that are nested no deeper than some levels. -/
def runWithin : Nat → Runner
  | 0 => fun _ => do
    let s ← get
    if s.dialect == .plain && !s.frames.isEmpty then refuseCall else throw .never
  | depth + 1 => perform (runWithin depth)

/-- How deep jobs may be nested. -/
def depthLimit : Nat := 1500

def run : Runner := runWithin depthLimit

end PlaybookLint.Shell
