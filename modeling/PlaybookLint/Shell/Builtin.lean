import PlaybookLint.Shell.Expansion
import PlaybookLint.Shell.Printing
import PlaybookLint.Shell.Test

/-!
The commands that the shell carries out itself and that need nothing but its state.
-/

namespace PlaybookLint.Shell

open PlaybookLint.Shell.Action

/-- The text of a value as it can be read again: between single quotes, these between double ones. -/
def quoteText (s : Octets) : Octets :=
  if s.isEmpty then ['\'', '\''] else go (s.length + 1) s
where
  go : Nat → Octets → Octets
    | 0, _ => []
    | _, [] => []
    | fuel + 1, s =>
      let plain := s.takeWhile (· != '\'')
      let quotes := (s.drop plain.length).takeWhile (· == '\'')
      (if plain.isEmpty then [] else ['\''] ++ plain ++ ['\''])
        ++ (if quotes.isEmpty then [] else ['"'] ++ quotes ++ ['"'])
        ++ go fuel (s.drop (plain.length + quotes.length))

/-- The text of a value as the larger shell writes it. -/
def quoteExtended (s : Octets) : Octets :=
  if s.any fun c => c < ' ' && c != '\t' && c != '\n' || c == '\x7f' then escapesQuoted s
  else if !holdsMeta none s then s
  else ['\''] ++ s.flatMap (fun c => if c == '\'' then ['\'', '\\', '\'', '\''] else [c]) ++ ['\'']

/-- The text of a value between double quotes. -/
def doubleQuoted (s : Octets) : Octets :=
  ['"'] ++ s.flatMap (fun c => if ['"', '$', '\\', '\x60'].contains c then ['\\', c] else [c]) ++ ['"']

/-- Writes to the output; tells of a failure. -/
def output (octets : Octets) : Action Unit := do
  if ← writeTo 1 octets then return
  else
    let name := (← get).builtin.getD []
    match (← get).dialect with
    | .plain => complain (name ++ ofText ": I/O error")
    | .extended => complain (ofText "write error: Bad file descriptor")
    setStatus 1

/-- Complains and ends with a status. -/
def refuse (text : Octets) (code : Nat) : Action Unit := do
  complain text
  setStatus code

/-- A number of decimal digits. -/
def plainNumber? (s : Octets) : Option Nat :=
  if s.isEmpty || !s.all isDigit then none else some (digitsValue s)

/-- A fault of a builtin: it ends with the status of faults, and one that belongs to the language ends
the script. -/
def illegal (text : String) (word : Octets) : Action Unit := do
  complain (ofText text ++ word)
  throw .failed

def echoBuiltin (words : List Octets) : Action Unit := do
  setStatus 0
  output (echo (← get).dialect words)

def printfBuiltin (words : List Octets) : Action Unit := do
  setStatus 0
  let dialect := (← get).dialect
  let words := match words with
    | ['-', '-'] :: rest => rest
    | words => words
  let (target, words) := match dialect, words with
    | .extended, ['-', 'v'] :: name :: rest => (some name, rest)
    | _, words => (none, words)
  match words with
  | [] =>
    match dialect with
    | .plain => illegal "usage: printf format [arg ...]" []
    | .extended => do
      say (ofText "printf: usage: printf [-v var] format [arguments]\n")
      setStatus 2
  | format :: words => do
    let p := printf dialect format words
    for w in p.warnings do complain w
    match target with
    | some name => assign name p.shown
    | none => output p.shown
    match p.fault with
    | some fault => refuse fault (if dialect == .plain then 2 else 1)
    | none => if !p.warnings.isEmpty then setStatus 1

def testBuiltin (bracket : Bool) (words : List Octets) : Action Unit := do
  let s ← get
  let files := fileTests s.system.tree s.place
  if bracket && words.getLast? != some [']'] then
    match s.dialect with
    | .plain => refuse (ofText "missing ]") 2
    | .extended => refuse (ofText "missing \x60]'") 2
  else
    let words := if bracket then words.dropLast else words
    let holds := match s.dialect with
      | .plain => Testing.evaluate files (words.length + 1) words
      | .extended => Testing.evaluateExtended files (words.length + 1) words
    match holds with
    | .ok holds => setStatus (if holds then 0 else 1)
    | .error fault => refuse fault 2

/-- The text of a directory as it is reached from another one, double dots taking a name away. -/
def joinDirectory (base path : Octets) : Octets :=
  let whole := if path.head? == some '/' then path else base ++ ['/'] ++ path
  let names := (splitAt '/' whole).foldl (fun names part =>
    if part.isEmpty || part == ['.'] then names
    else if part == ['.', '.'] then names.dropLast
    else names ++ [part]) []
  ['/'] ++ ['/'].intercalate names

/-- The text of a place. -/
def placeText (place : Files.Place) : Octets := ofText ("/" ++ "/".intercalate place)

/-- Goes to a directory and remembers the one before. -/
def enterDirectory (place : Files.Place) (path : Octets) : Action Unit := do
  let s ← get
  let old := s.directory
  set { s with place, directory := path }
  assign "OLDPWD".toList old
  export_ "OLDPWD".toList
  assign "PWD".toList path
  export_ "PWD".toList

/-- The directory that a path leads to, as a place and as a text. -/
def directoryAt? (s : State) (physical : Bool) (path : Octets) :
    Except Errno (Files.Place × Octets) := do
  let logical := joinDirectory s.directory path
  let place ← Files.walk s.system.tree s.place (toText (if physical then path else logical))
  if s.system.tree.at? place == some .directory then
    return (place, if physical then placeText place else logical)
  else throw .notDirectory

/-- Splits the switches off that a builtin takes, letter by letter. -/
def takeSwitches (letters : Octets) : List Octets → Octets × List Octets
  | ['-', '-'] :: rest => ([], rest)
  | ('-' :: c :: more) :: rest =>
    if (c :: more).all letters.contains then
      let (taken, rest) := takeSwitches letters rest
      (c :: more ++ taken, rest)
    else ([], ('-' :: c :: more) :: rest)
  | words => ([], words)

def cdBuiltin (words : List Octets) : Action Unit := do
  let s ← get
  let (switches, words) := takeSwitches ['L', 'P', 'e', '@'] words
  let physical := switches.getLast? == some 'P'
  setStatus 0
  let goal? : Option Octets := match words with
    | [] => s.value? "HOME".toList
    | ['-'] :: _ => some ((s.value? "OLDPWD".toList).getD s.directory)
    | w :: _ => some w
  let path := goal?.getD []
  let named := match words with
    | [] => false
    | w :: _ => w != ['-'] && !w.isEmpty && w.head? != some '/' && w != ['.'] && w != ['.', '.']
        && !(['.', '/'].isPrefixOf w) && !(['.', '.', '/'].isPrefixOf w)
  let bases := if named then splitAt ':' (s.value "CDPATH".toList) ++ [[]] else [[]]
  let tried := (if named && (s.value? "CDPATH".toList).isSome then bases else [[]]).map fun base =>
    (base, if base.isEmpty then path else base ++ ['/'] ++ path)
  if s.dialect == .extended && goal?.isNone then refuse (ofText "HOME not set") 1
  else if path.isEmpty then return
  else
    let found := tried.findSome? fun (base, path) =>
      (directoryAt? s physical path).toOption.map (base, ·)
    match found with
    | some (base, place, text) => do
      enterDirectory place text
      if words.head? == some ['-'] || !base.isEmpty then output (text ++ ['\n'])
    | none =>
      match s.dialect with
      | .plain => refuse (ofText "can't cd to " ++ path) 2
      | .extended =>
        match directoryAt? s physical path with
        | .error errno => refuse (path ++ ofText s!": {errno.reason}") 1
        | .ok _ => return

def pwdBuiltin (words : List Octets) : Action Unit := do
  let s ← get
  setStatus 0
  let (switches, _) := takeSwitches ['L', 'P'] words
  let text := if switches.getLast? == some 'P' then placeText s.place else s.directory
  output (text ++ ['\n'])

/-- A character that has been read, and whether a backslash stood before it. -/
abbrev ReadText := List (Char × Bool)

/-- Is the character one that divides fields, and a blank? -/
def dividesRead (separators : Octets) (c : Char × Bool) : Bool := !c.2 && separators.contains c.1

def isReadBlank (separators : Octets) (c : Char × Bool) : Bool :=
  dividesRead separators c && (isBlank c.1 || c.1 == '\n')

/-- What is left of a line for the last name. -/
def lastField (separators : Octets) (s : ReadText) : Octets :=
  let s := (s.reverse.dropWhile (isReadBlank separators)).reverse
  let field := s.takeWhile (!dividesRead separators ·)
  let after := (s.drop field.length).dropWhile (isReadBlank separators)
  match after with
  | [c] => if dividesRead separators c then field.map (·.1) else s.map (·.1)
  | _ => s.map (·.1)

/-- The fields of a line, one for each of several names. -/
def readFields (separators : Octets) : Nat → ReadText → List Octets
  | 0, _ => []
  | 1, s => [lastField separators (s.dropWhile (isReadBlank separators))]
  | names + 1, s =>
    let s := s.dropWhile (isReadBlank separators)
    let field := s.takeWhile (!dividesRead separators ·)
    let after := (s.drop field.length).dropWhile (isReadBlank separators)
    let after := match after with
      | c :: rest =>
        if dividesRead separators c && field.length < s.length
            && ((s.drop field.length).head?.map (isReadBlank separators)).getD false then rest
        else if dividesRead separators c then rest else after
      | [] => []
    field.map (·.1) :: readFields separators names after

/-- Marks the characters after backslashes; tells whether one stood at the end of the line. -/
def markEscapes : Octets → ReadText × Bool
  | [] => ([], false)
  | ['\\'] => ([], true)
  | '\\' :: c :: rest =>
    let (more, joins) := markEscapes rest
    ((c, true) :: more, joins)
  | c :: rest =>
    let (more, joins) := markEscapes rest
    ((c, false) :: more, joins)

/-- Reads a line, joined to those after it where it ends with a backslash. -/
def readLogicalLine (fd : Nat) (raw : Bool) (stop : Char) : Nat → Action (ReadText × Bool)
  | 0 => return ([], false)
  | fuel + 1 => do
    let (line, ended) ← readUpTo fd stop
    if raw then return (line.map (·, false), ended)
    else
      let (text, joins) := markEscapes line
      if joins && ended then
        let (more, ended) ← readLogicalLine fd raw stop fuel
        return (text ++ more, ended)
      else return (text, ended)

/-- Refuses a word that looks like a switch. -/
def refuseSwitch (words : List Octets) : Action Unit := do
  match words, (← get).dialect with
  | ('-' :: c :: _) :: _, .plain => illegal "Illegal option -" [c]
  | _, _ => return

/-- What a line is read with. -/
structure ReadSwitches where
  raw : Bool := false
  array : Option Octets := none
  stop : Char := '\n'
  count : Option Nat := none
  fd : Nat := 0

/-- What a switch with a value means for reading a line, if there is such a switch. -/
def ReadSwitches.valued? (r : ReadSwitches) (dialect : Dialect) (letter : Char) :
    Option (Octets → ReadSwitches) :=
  match dialect, letter with
  | _, 'p' => some fun _ => r
  | .extended, 'a' => some fun name => { r with array := some name }
  | .extended, 'd' => some fun stop => { r with stop := stop.headD '\x00' }
  | .extended, 'n' | .extended, 'N' => some fun n => { r with count := some (digitsValue n) }
  | .extended, 't' | .extended, 'i' => some fun _ => r
  | .extended, 'u' => some fun n => { r with fd := digitsValue n }
  | _, _ => none

/-- Takes the switches of reading a line. -/
def takeReadSwitches (dialect : Dialect) : Nat → List Octets → ReadSwitches →
    ReadSwitches × List Octets
  | 0, words, r => (r, words)
  | fuel + 1, words, r =>
    match words with
    | ['-', '-'] :: rest => (r, rest)
    | ('-' :: c :: more) :: rest =>
      match r.valued? dialect c with
      | some set =>
        if more.isEmpty then takeReadSwitches dialect fuel (rest.drop 1) (set (rest.headD []))
        else takeReadSwitches dialect fuel rest (set more)
      | none =>
        let rest := if more.isEmpty then rest else ('-' :: more) :: rest
        if c == 'r' then takeReadSwitches dialect fuel rest { r with raw := true }
        else if dialect == .extended && (c == 's' || c == 'e') then
          takeReadSwitches dialect fuel rest r
        else (r, words)
    | words => (r, words)

/-- Reads a number of characters. -/
def readCount (fd : Nat) : Nat → Action (ReadText × Bool)
  | 0 => return ([], true)
  | n + 1 => do
    match ← readOctet fd with
    | none => return ([], false)
    | some '\n' => return ([], true)
    | some c => do
      let (more, ended) ← readCount fd n
      return ((c, false) :: more, ended)

/-- Gives an array the values that are listed. -/
def setArray (name : Octets) (values : List Octets) : Action Unit :=
  changeVariable name fun v =>
    { v with value := none, elements := some (values.zipIdx.map fun (x, i) => (numberText i, x)) }

def readBuiltin (words : List Octets) : Action Unit := do
  let s ← get
  let fuel := words.foldl (fun n w => n + w.length + 1) 1
  let (r, names) := takeReadSwitches s.dialect fuel words {}
  refuseSwitch names
  let names := if names.isEmpty && s.dialect == .extended then ["REPLY".toList] else names
  match names.find? (!isName ·), names with
  | _, [] => illegal "arg count" []
  | some name, _ =>
    match s.dialect with
    | .plain => illegal (String.ofList name) (ofText ": bad variable name")
    | .extended => refuse (['\x60'] ++ name ++ ofText "': not a valid identifier") 1
  | none, names => do
    let (line, ended) ← match r.count with
      | some n => readCount r.fd n
      | none => readLogicalLine r.fd r.raw r.stop s.system.steps
    let line := line.filter (·.1 != '\x00')
    match r.array with
    | some name =>
      setArray name ((fieldsOf s.separators (line.map fun (c, q) => .octet c q !q)).map (·.map (·.1)))
    | none =>
      if names == ["REPLY".toList] && words.all (·.head? == some '-') then
        assign "REPLY".toList (line.map (·.1))
      else
        for (name, value) in names.zip (readFields s.separators names.length line) do
          assign name value
    setStatus (if ended then 0 else 1)

def shiftBuiltin (words : List Octets) : Action Unit := do
  let s ← get
  match words with
  | [] => move s 1
  | w :: _ =>
    match plainNumber? w with
    | some n => move s n
    | none =>
      match s.dialect with
      | .plain => illegal "Illegal number: " w
      | .extended => refuse (w ++ ofText ": numeric argument required") 1
where
  move (s : State) (n : Nat) : Action Unit := do
    if s.parameters.length < n then
      match s.dialect with
      | .plain => illegal "can't shift that many" []
      | .extended => setStatus 1
    else set { s with parameters := s.parameters.drop n, status := 0 }

/-- The name and value of an assignment among words. -/
def splitAssignment (w : Octets) : Octets × Option Octets :=
  let name := w.takeWhile (· != '=')
  match w.drop name.length with
  | '=' :: value => (name, some value)
  | _ => (name, none)

/-- Refuses a name that is none. -/
def refuseName (w name : Octets) : Action Unit := do
  match (← get).dialect with
  | .plain => illegal (String.ofList name) (ofText ": bad variable name")
  | .extended => refuse (['\x60'] ++ w ++ ofText "': not a valid identifier") 1

/-- The variables of a kind as commands that set them again, sorted by their names. -/
def shownVariables (s : State) (command : Octets) (wanted : Variable → Bool) : Octets :=
  let chosen := s.bindings.filter fun (_, v) => wanted v
  let sorted := chosen.mergeSort fun a b => !isBefore b.1 a.1
  sorted.flatMap fun (name, v) =>
    let value := match v.value with
      | some x => ['='] ++ (if s.dialect == .plain then quoteText x else doubleQuoted x)
      | none => []
    command ++ [' '] ++ name ++ value ++ ['\n']

/-- Declares variables that are handed on, or keep their value. -/
def declareBuiltin (plainName extendedName : String) (mark : Octets → Action Unit)
    (wanted : Variable → Bool) (words : List Octets) : Action Unit := do
  let s ← get
  setStatus 0
  let (switches, words) := takeSwitches ['p', 'n', 'f', 'a'] words
  if words.isEmpty || switches.contains 'p' then
    let name := match s.dialect with
      | .plain => plainName
      | .extended => extendedName
    output (shownVariables s name.toList wanted)
  else
    for w in words do
      let (name, value) := splitAssignment w
      if !isName name then refuseName w name
      else if switches.contains 'n' then
        modify fun s => { s with bindings := s.bindings.map fun (k, v) =>
          if k == name then (k, { v with exported := false }) else (k, v) }
      else
        match value with
        | some value => assign name value
        | none => pure ()
        mark name

/-- Makes a variable local to the function at work. -/
def makeLocal (name : Octets) : Action Unit := do
  let s ← get
  match s.frames with
  | [] => return
  | frame :: rest =>
    if frame.saved.any (·.1 == name) then return
    else
      set { s with frames := { frame with saved := (name, s.declared? name) :: frame.saved } :: rest }
      if s.dialect == .extended then
        modify fun s => { s with bindings := State.putVariable s.bindings name { value := none } }

def localBuiltin (words : List Octets) : Action Unit := do
  let s ← get
  setStatus 0
  if s.frames.isEmpty then
    match s.dialect with
    | .plain => illegal "not in a function" []
    | .extended => refuse (ofText "can only be used in a function") 1
  else
    let (switches, words) := match s.dialect with
      | .plain => ([], words)
      | .extended => takeSwitches ['a', 'A', 'i', 'r', 'x', 'n', 'l', 'u', 'g'] words
    for w in words do
      if w == ['-'] then continue
      let (name, value) := splitAssignment w
      if !isName name then refuseName w name
      else
        makeLocal name
        match value with
        | some value => assign name value
        | none => pure ()
        if switches.contains 'a' || switches.contains 'A' then
          changeVariable name fun v =>
            { v with elements := some (v.elements.getD []), keyed := switches.contains 'A' }
        if switches.contains 'x' then export_ name
        if switches.contains 'r' then keep name

def unsetBuiltin (words : List Octets) : Action Unit := do
  setStatus 0
  let (switches, words) := takeSwitches ['v', 'f'] words
  refuseSwitch words
  for w in words do
    let dialect := (← get).dialect
    if switches.contains 'f' then
      modify fun s => { s with functions := s.functions.filter (·.1 != w) }
    else if dialect == .extended && w.contains '[' then
      let name := w.takeWhile (· != '[')
      let index := ((w.drop (name.length + 1)).takeWhile (· != ']'))
      changeVariable name fun v =>
        { v with elements := v.elements.map fun es => es.filter (·.1 != index) }
    else if !isName w then
      match dialect with
      | .plain => illegal (String.ofList w) (ofText ": bad variable name")
      | .extended => refuse (['\x60'] ++ w ++ ofText "': not a valid identifier") 1
    else if dialect == .extended && !switches.contains 'v' && ((← get).declared? w).isNone then
      modify fun s => { s with functions := s.functions.filter (·.1 != w) }
    else unsetVariable w

/-- The long names of the switches. -/
def switchNames (dialect : Dialect) : List (String × Char) :=
  match dialect with
  | .plain =>
    [("errexit", 'e'), ("noglob", 'f'), ("ignoreeof", 'I'), ("interactive", 'i'), ("monitor", 'm'),
      ("noexec", 'n'), ("stdin", 's'), ("xtrace", 'x'), ("verbose", 'v'), ("vi", 'V'), ("emacs", 'E'),
      ("noclobber", 'C'), ("allexport", 'a'), ("notify", 'b'), ("nounset", 'u'), ("nolog", '0'),
      ("debug", '1')]
  | .extended =>
    [("allexport", 'a'), ("errexit", 'e'), ("noglob", 'f'), ("noexec", 'n'), ("nounset", 'u'),
      ("verbose", 'v'), ("xtrace", 'x'), ("noclobber", 'C'), ("pipefail", 'P'), ("hashall", 'h'),
      ("braceexpand", 'B'), ("monitor", 'm'), ("notify", 'b'), ("errtrace", 'E'), ("functrace", 'T'),
      ("physical", '0'), ("posix", '1'), ("privileged", 'p'), ("keyword", 'k'), ("onecmd", 't')]

/-- Turns a switch on or off. -/
def Switches.turn (w : Switches) (letter : Char) (on : Bool) : Switches :=
  match letter with
  | 'e' => { w with exitsOnFailure := on }
  | 'u' => { w with refusesUnset := on }
  | 'f' => { w with keepsPatterns := on }
  | 'x' => { w with traces := on }
  | 'v' => { w with echoesInput := on }
  | 'a' => { w with exportsAll := on }
  | 'C' => { w with keepsFiles := on }
  | 'n' => { w with readsOnly := on }
  | 'P' => { w with failsInPipes := on }
  | _ => w

/-- Is the switch on? -/
def Switches.isOn (w : Switches) (letter : Char) : Bool :=
  match letter with
  | 'e' => w.exitsOnFailure
  | 'u' => w.refusesUnset
  | 'f' => w.keepsPatterns
  | 'x' => w.traces
  | 'v' => w.echoesInput
  | 'a' => w.exportsAll
  | 'C' => w.keepsFiles
  | 'n' => w.readsOnly
  | 'P' => w.failsInPipes
  | _ => false

/-- The switches as they are listed. -/
def shownSwitches (s : State) (asCommands : Bool) : Octets :=
  let lines := (switchNames s.dialect).map fun (name, letter) =>
    let on := s.switches.isOn letter
    if asCommands then ofText (if on then "set -o " else "set +o ") ++ name.toList
    else
      let width := if s.dialect == .plain then 16 else 15
      name.toList ++ List.replicate (width - name.length) ' '
        ++ (if s.dialect == .extended then ['\t'] else []) ++ ofText (if on then "on" else "off")
  let head := if asCommands || s.dialect == .extended then [] else ofText "Current option settings\n"
  head ++ lines.flatMap (· ++ ['\n'])

/-- Turns the switches of a word on or off. -/
def turnLetters (on : Bool) : Octets → Action Unit
  | [] => return
  | c :: rest => do
    let known := ((switchNames (← get).dialect).map (·.2)).contains c || c == 'o' || c == 'l'
    if !known then
      match (← get).dialect with
      | .plain => illegal "Illegal option " [if on then '-' else '+', c]
      | .extended => do
        refuse ([if on then '-' else '+', c] ++ ofText ": invalid option") 2
        throw .failed
    else
      modify fun s => { s with switches := s.switches.turn c on }
      turnLetters on rest

/-- Turns a switch on or off by its long name. -/
def turnNamed (on : Bool) (name : Octets) : Action Unit := do
  match (switchNames (← get).dialect).lookup (String.ofList name) with
  | some letter => modify fun s => { s with switches := s.switches.turn letter on }
  | none =>
    match (← get).dialect with
    | .plain => illegal (if on then "Illegal option -o " else "Illegal option +o ") name
    | .extended => do
      refuse (name ++ ofText ": invalid option name") 2
      throw .failed

/-- Takes the switches among the words; the rest become the parameters. -/
def takeSettings : Nat → List Octets → Action Unit
  | 0, _ => return
  | _, [] => return
  | fuel + 1, w :: rest => do
    match w with
    | ['-', '-'] => modify fun s => { s with parameters := rest }
    | ['-'] => do
      modify fun s => { s with switches := { s.switches with traces := false, echoesInput := false } }
      if !rest.isEmpty then modify fun s => { s with parameters := rest }
    | '-' :: letters => switched true letters fuel rest
    | '+' :: letters => switched false letters fuel rest
    | _ => modify fun s => { s with parameters := w :: rest }
where
  switched (on : Bool) (letters : Octets) (fuel : Nat) (rest : List Octets) : Action Unit := do
    turnLetters on letters
    if letters.contains 'o' then
      match rest with
      | name :: rest => do
        turnNamed on name
        takeSettings fuel rest
      | [] => output (shownSwitches (← get) !on)
    else takeSettings fuel rest

def setBuiltin (words : List Octets) : Action Unit := do
  setStatus 0
  let s ← get
  if words.isEmpty then
    let named := s.bindings.filter fun (_, v) => v.value.isSome
    let sorted := named.mergeSort fun a b => !isBefore b.1 a.1
    output (sorted.flatMap fun (name, v) =>
      let x := v.value.getD []
      name ++ ['='] ++ shown s.dialect x ++ ['\n'])
  else takeSettings (words.length + 1) words
where
  shown : Dialect → Octets → Octets
    | .plain, x => quoteText x
    | .extended, x => if x.any (· < ' ') then escapesQuoted x else quoteExtended x

/-- The traps as commands that set them again. -/
def shownTraps (s : State) : Octets :=
  let sorted := s.traps.mergeSort fun a b => a.signal ≤ b.signal
  sorted.flatMap fun t =>
    let name := if s.dialect == .extended && t.signal != 0 && t.signal < failureEvent then "SIG".toList ++ signalName t.signal
      else signalName t.signal
    let action := if s.dialect == .plain then quoteText t.action
      else ['\''] ++ t.action.flatMap (fun c => if c == '\'' then ['\'', '\\', '\'', '\''] else [c])
        ++ ['\'']
    ofText "trap -- " ++ action ++ [' '] ++ name ++ ['\n']

def trapBuiltin (words : List Octets) : Action Unit := do
  setStatus 0
  let s ← get
  let words := match words with
    | ['-', '-'] :: rest => rest
    | words => words
  match words with
  | [] | [['-', 'p']] => output (shownTraps s)
  | first :: rest => do
    let resets := (first == ['-'] && !rest.isEmpty) || (first.all isDigit && !first.isEmpty)
      || rest.isEmpty
    let signals := if (first == ['-'] && !rest.isEmpty) || !resets then rest else first :: rest
    for w in signals do
      match signalOf? s.dialect w with
      | none =>
        match s.dialect with
        | .plain => do
          say (ofText "trap: " ++ w ++ ofText ": bad trap\n")
          setStatus 1
        | .extended => refuse (w ++ ofText ": invalid signal specification") 1
      | some n =>
        modify fun s => { s with traps :=
          (if resets then [] else [⟨n, first⟩]) ++ s.traps.filter (·.signal != n) }

/-- Sends a signal to the shell itself, or to the one that it is a copy of. -/
def raiseSignal (signal : Nat) : Action Unit := do
  let s ← get
  if s.inSubshell then toAncestor s.number signal
  else if signal == 9 then throw (.killed s.number 9)
  else if signal == 0 then return
  else if isStop signal then throw .never
  else
    match s.traps.find? (·.signal == signal) with
    | some t => if !t.action.isEmpty then set { s with pending := s.pending ++ [signal] }
    | none => if !isHarmless signal then throw (.killed s.number signal)
where
  toAncestor (number signal : Nat) : Action Unit := do
    let s ← get
    let deals := ((s.ancestors.find? (·.number == number)).map (·.deals)).getD []
    if deals.contains signal && signal != 9 then
      modifySystem fun y => { y with signals := y.signals ++ [(number, signal)] }
    else if signal != 0 && !isHarmless signal then throw (.killed number signal)

/-- Ends a process that is not waited for by a signal. What it would have written later is not
written. -/
def endBackground (number signal : Nat) : Action Unit := do
  let time ← now
  let s ← get
  let isOver (finish : Option Nat) : Bool :=
    match finish with
    | some t => t ≤ time
    | none => false
  let ended := s.jobs.any fun j => j.number == number && isOver j.finish
  if signal == 0 || isHarmless signal || ended then return
  let cut (finish : Option Nat) : Option Nat := some (min time (finish.getD time))
  modify fun s => { s with jobs := s.jobs.map fun j =>
    if j.number == number then ⟨number, 128 + signal, cut j.finish, some signal⟩ else j }
  modifySystem fun y => { y with
    held := y.held.map fun h =>
      if h.process == number then { h with finish := cut h.finish } else h
    written := y.written.filter fun w => w.process != number || w.time ≤ time }

/-- Takes the signal that is asked for off the words. -/
def takeSignal (words : List Octets) : Action (Option (Nat × List Octets)) := do
  let dialect := (← get).dialect
  match words with
  | ['-', 's'] :: name :: rest =>
    match signalOf? dialect name with
    | some n => return some (n, rest)
    | none => do
      refuse (ofText "invalid signal number or name: " ++ name) 2
      return none
  | ['-', 's'] :: [] => do
    refuse (ofText "No arg for -s option") 2
    return none
  | ['-', '-'] :: rest => return some (15, rest)
  | ('-' :: c :: name) :: rest =>
    match signalOf? dialect (c :: name) with
    | some n => return some (n, rest)
    | none => do
      match dialect with
      | .plain => refuse (ofText "Illegal option -" ++ [c]) 2
      | .extended => refuse (c :: name ++ ofText ": invalid signal specification") 1
      return none
  | words => return some (15, words)

/-- Lists the names of signals, or tells the one of a number. -/
def listSignals (words : List Octets) : Action Unit := do
  match words with
  | [] => output (("0" :: signalNames).flatMap fun name => name.toList ++ ['\n'])
  | w :: _ =>
    match plainNumber? w with
    | some n =>
      let n := if 128 < n then n - 128 else n
      output (signalName n ++ ['\n'])
    | none => refuse (ofText "Illegal number: " ++ w) 2

/-- The process that a word stands for: its number, or after a percent sign its place among those that
are not waited for. -/
def jobNumber? (s : State) (w : Octets) : Option Nat :=
  let found := match w with
    | ['%', '%'] | ['%', '+'] | ['%'] => s.jobs.head?
    | ['%', '-'] => s.jobs[1]?
    | '%' :: digits => if (digits.all isDigit) then s.jobs.reverse[digitsValue digits - 1]? else none
    | w => s.jobs.find? fun j => numberText j.number == w
  found.map (·.number)

/-- Says that there is no such process. -/
def noJob (dialect : Dialect) (w : Octets) : Action Unit := do
  match dialect with
  | .plain => refuse (ofText "No such job: " ++ w) 2
  | .extended => refuse (w ++ ofText ": no such job") 127

def killBuiltin (words : List Octets) : Action Unit := do
  setStatus 0
  match words with
  | [] => do
    refuse (ofText "Usage: kill [-s sigspec | -signum | -sigspec] [pid | job]... or\nkill -l [exitstatus]")
      2
  | ['-', 'l'] :: rest => listSignals rest
  | words =>
    match ← takeSignal words with
    | none => return
    | some (signal, targets) => do
      for target in targets do
        let s ← get
        let number? := jobNumber? s target
        if target == numberText s.number || target == ['0'] then raiseSignal signal
        else if s.ancestors.any fun a => numberText a.number == target then
          raiseSignal.toAncestor (digitsValue target) signal
        else
          match number? with
          | some number =>
            if s.dialect == .plain && target.head? == some '%' then
              refuse (ofText "No such process\n") 1
            else endBackground number signal
          | none =>
            if (plainNumber? target).isSome then
              match s.dialect with
              | .plain => refuse (ofText "No such process\n") 1
              | .extended => refuse (['('] ++ target ++ ofText ") - No such process") 1
            else if target.head? == some '%' then noJob s.dialect target
            else
              match s.dialect with
              | .plain => refuse (ofText "Illegal number: " ++ target) 2
              | .extended => refuse (target ++ ofText ": arguments must be process or job IDs") 1

def waitBuiltin (words : List Octets) : Action Unit := do
  setStatus 0
  let s ← get
  match words with
  | [] => for j in s.jobs do awaitEnd { j with endedBy := none }
  | words =>
    for w in words do
      match (jobNumber? s w).bind fun n => s.jobs.find? (·.number == n) with
      | some j => do
        awaitEnd j
        setStatus j.status
      | none =>
        if w.head? == some '%' then noJob s.dialect w
        else if (plainNumber? w).isSome then setStatus 127
        else
          match s.dialect with
          | .plain => refuse (ofText "Illegal number: " ++ w) 2
          | .extended => refuse (['\x60'] ++ w ++ ofText "': not a pid or valid job spec") 1
where
  awaitEnd (j : Background) : Action Unit := do
    match j.finish with
    | none => throw .never
    | some time => waitUntil time
    match j.endedBy with
    | some signal => do
      tellEnd signal
      modify fun s => { s with jobs := s.jobs.map fun k =>
        if k.number == j.number then { k with endedBy := none } else k }
    | none => return

def aliasBuiltin (words : List Octets) : Action Unit := do
  setStatus 0
  if words.isEmpty then
    for (name, text) in (← get).aliases do
      output (name ++ ['='] ++ quoteText text ++ ['\n'])
  for w in words do
    let (name, text) := splitAssignment w
    match text with
    | some text =>
      modify fun s => { s with aliases := (name, text) :: s.aliases.filter (·.1 != name) }
    | none =>
      match (← get).aliases.lookup name with
      | some text => output (name ++ ['='] ++ quoteText text ++ ['\n'])
      | none => do
        match (← get).dialect with
        | .plain => say (ofText "alias: " ++ name ++ ofText " not found\n")
        | .extended => complain (name ++ ofText ": not found")
        setStatus 1

def unaliasBuiltin (words : List Octets) : Action Unit := do
  setStatus 0
  if words == [['-', 'a']] then modify fun s => { s with aliases := [] }
  else
    for name in words do
      if (← get).aliases.any (·.1 == name) then
        modify fun s => { s with aliases := s.aliases.filter (·.1 != name) }
      else
        match (← get).dialect with
        | .plain => say (ofText "unalias: " ++ name ++ ofText " not found\n")
        | .extended => complain (name ++ ofText ": not found")
        setStatus 1

/-- Sets what is known of the options after one has been read. -/
def setOption (name letter value : Octets) (index place : Nat) (code : Nat) : Action Unit := do
  modify fun s => { s with optionPlace := (index, place) }
  assign "OPTIND".toList (numberText index)
  assign name letter
  if value.isEmpty then
    match (← get).dialect with
    | .plain => assign "OPTARG".toList []
    | .extended => unsetVariable "OPTARG".toList
  else assign "OPTARG".toList value
  setStatus code

/-- Complains about an option unless the script does so itself. -/
def optionFault (quiet : Bool) (name : Octets) (letter : Char) (index place : Nat) (missing : Bool) :
    Action Unit := do
  if quiet then setOption name (if missing then [':'] else ['?']) [letter] index place 0
  else
    let dialect := (← get).dialect
    match dialect, missing with
    | .plain, true => say (ofText "No arg for -" ++ [letter] ++ ofText " option\n")
    | .plain, false => say (ofText "Illegal option -" ++ [letter, '\n'])
    | .extended, true =>
      say ((← get).name ++ ofText ": option requires an argument -- " ++ [letter, '\n'])
    | .extended, false => say ((← get).name ++ ofText ": illegal option -- " ++ [letter, '\n'])
    setOption name ['?'] [] index place 0

def getoptsBuiltin (words : List Octets) : Action Unit := do
  let s ← get
  match words with
  | letters :: name :: given => do
    let params := if given.isEmpty then s.parameters else given
    let told := digitsValue (s.value "OPTIND".toList)
    let (index, place) := if told == s.optionPlace.1 then s.optionPlace else (max told 1, 0)
    let quiet := letters.head? == some ':'
    let word := (params[index - 1]?).getD []
    let (done, index, place) : Bool × Nat × Nat :=
      if place != 0 then (false, index, place)
      else
        match word with
        | ['-', '-'] => (true, index + 1, 0)
        | '-' :: _ :: _ => (false, index, 1)
        | _ => (true, index, 0)
    if done then
      modify fun s => { s with optionPlace := (index, 0) }
      assign "OPTIND".toList (numberText index)
      assign name ['?']
      setStatus 1
    else
      let letter := (word[place]?).getD '?'
      let atEnd := word.length ≤ place + 1
      let (nextIndex, nextPlace) := if atEnd then (index + 1, 0) else (index, place + 1)
      let after := (letters.dropWhile (· != letter)).drop 1
      if letter == ':' || !letters.contains letter then
        optionFault quiet name letter nextIndex nextPlace false
      else if after.head? == some ':' then
        if !atEnd then setOption name [letter] (word.drop (place + 1)) (index + 1) 0 0
        else
          match params[index]? with
          | some value => setOption name [letter] value (index + 2) 0 0
          | none => optionFault quiet name letter (index + 1) 0 true
      else setOption name [letter] [] nextIndex nextPlace 0
  | _ =>
    match s.dialect with
    | .plain => illegal "Usage: getopts optstring var [arg...]" []
    | .extended => do
      say (ofText "getopts: usage: getopts optstring name [arg ...]\n")
      setStatus 2

/-- The rights that new files are not given, symbolically. -/
def umaskBuiltin (words : List Octets) : Action Unit := do
  setStatus 0
  match words with
  | [] => output (ofText "0022\n")
  | [['-', 'S']] => output (ofText "u=rwx,g=rx,o=rx\n")
  | w :: _ =>
    if w.all fun c => isOctal c || ['u', 'g', 'o', 'a', '=', '+', '-', 'r', 'w', 'x', ','].contains c then
      return
    else
      match (← get).dialect with
      | .plain =>
        illegal (if (w.head?.map isDigit).getD false then "Illegal number: " else "Illegal mode: ") w
      | .extended => refuse (w ++ ofText ": octal number out of range") 1

/-- Tells what the process may use; all of it. -/
def ulimitBuiltin (words : List Octets) : Action Unit := do
  setStatus 0
  let (_, rest) := takeSwitches "HSatfdscmlpnvwr".toList words
  refuseSwitch rest
  if rest.isEmpty then output (ofText "unlimited\n")

/-- The builtins that need nothing but the state. -/
def simpleBuiltin? (dialect : Dialect) (name : String) : Option (List Octets → Action Unit) :=
  match name with
  | ":" | "true" => some fun _ => setStatus 0
  | "false" => some fun _ => setStatus 1
  | "echo" => some echoBuiltin
  | "printf" => some printfBuiltin
  | "test" => some (testBuiltin false)
  | "[" => some (testBuiltin true)
  | "cd" => some cdBuiltin
  | "chdir" => if dialect == .plain then some cdBuiltin else none
  | "pwd" => some pwdBuiltin
  | "read" => some readBuiltin
  | "shift" => some shiftBuiltin
  | "export" => some (declareBuiltin "export" "declare -x" export_ (·.exported))
  | "readonly" => some (declareBuiltin "readonly" "declare -r" keep (·.readonly))
  | "local" => some localBuiltin
  | "unset" => some unsetBuiltin
  | "set" => some setBuiltin
  | "trap" => some trapBuiltin
  | "kill" => some killBuiltin
  | "wait" => some waitBuiltin
  | "alias" => some aliasBuiltin
  | "unalias" => some unaliasBuiltin
  | "getopts" => some getoptsBuiltin
  | "umask" => some umaskBuiltin
  | "ulimit" => some ulimitBuiltin
  | "jobs" | "bg" | "times" => some fun _ => setStatus 0
  | "fg" => some fun _ => refuse (ofText "No current job") 2
  | _ => none

end PlaybookLint.Shell
