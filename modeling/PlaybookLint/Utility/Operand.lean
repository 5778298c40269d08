import PlaybookLint.Shell.Redirection

/-!
What the programs of the system have in common: how they read their words, how they complain, and how
they read files.
-/

namespace PlaybookLint.Utility

open Shell Shell.Action

/-- Says something in the name of the program. -/
def notice (text : Octets) : Action Unit := do
  say ((← get).name ++ ofText ": " ++ text ++ ['\n'])

/-- Says something and ends with a status. -/
def refuse (text : Octets) (code : Nat := 1) : Action Unit := do
  notice text
  setStatus code

/-- Points to where help is found and gives up. -/
def seeHelp {α : Type} (code : Nat := 1) : Action α := do
  say (ofText "Try '" ++ (← get).name ++ ofText " --help' for more information.\n")
  throw (.exit code)

/-- Says something, points to where help is found and gives up. -/
def misused {α : Type} (text : Octets) (code : Nat := 1) : Action α := do
  notice text
  seeHelp code

/-- Writes to the output; without one the program ends. -/
def put (text : Octets) : Action Unit := do
  if text.isEmpty then return
  else if ← writeTo 1 text then return
  else
    notice (ofText "write error: Bad file descriptor")
    throw (.exit 1)

/-- Is text that people read written in all of the characters there are? -/
def hasWideText (s : State) : Bool :=
  let named := ["LC_ALL", "LC_CTYPE", "LANG"].findSome? fun name =>
    (s.value? name.toList).filter (!·.isEmpty)
  match named with
  | some value =>
    let folded := String.ofList (value.map lowerOf)
    folded.endsWith "utf-8" || folded.endsWith "utf8"
  | none => false

/-- A text between the quotes that people use. -/
def quoted (s : State) (text : Octets) : Octets :=
  if hasWideText s then ofText "‘" ++ text ++ ofText "’" else ['\''] ++ text ++ ['\'']

/-- A text between quotes that a shell reads. -/
def alwaysQuoted (text : Octets) : Octets :=
  if text.contains '\'' && !text.any (['"', '$', '\x60', '\\'].contains ·) then ['"'] ++ text ++ ['"']
  else ['\''] ++ text.flatMap (fun c => if c == '\'' then ['\'', '\\', '\'', '\''] else [c]) ++ ['\'']

/-- Characters that a text written again has to be quoted for. -/
def needsQuotes (s : Octets) : Bool :=
  s.isEmpty || !s.all fun c =>
    isNameChar c || ['-', '+', '/', '.', ':', '@', '%', ','].contains c || c > '\x7f'

/-- A text between quotes that a shell reads, if it needs them. -/
def quotedIfNeeded (text : Octets) : Octets :=
  if needsQuotes text || text.isEmpty then alwaysQuoted text else text

/-! ### Switches -/

/-- The switches that a program takes: letters, letters with a value, and long names for them. -/
structure SwitchTable where
  letters : String
  valued : String := ""
  long : List (String × Char) := []
  /-- Switches may come after other words. -/
  anywhere : Bool := true
  /-- The status of wrong usage. -/
  code : Nat := 1

/-- The words of a program: switches with their values, and the others. -/
structure Words where
  switches : List (Char × Octets)
  operands : List Octets

namespace Words

def has (w : Words) (c : Char) : Bool := w.switches.any (·.1 == c)

/-- The last value of a switch. -/
def value? (w : Words) (c : Char) : Option Octets :=
  (w.switches.reverse.find? (·.1 == c)).map (·.2)

end Words

namespace SwitchTable

/-- Reads the letters of a word. -/
def readLetters (t : SwitchTable) : Octets → List Octets →
    Action (List (Char × Octets) × List Octets)
  | [], rest => return ([], rest)
  | c :: more, rest => do
    if t.valued.toList.contains c then
      match more, rest with
      | [], v :: rest => return ([(c, v)], rest)
      | [], [] => misused (ofText "option requires an argument -- '" ++ [c, '\'']) t.code
      | v, rest => return ([(c, v)], rest)
    else if t.letters.toList.contains c then
      let (switches, rest) ← t.readLetters more rest
      return ((c, []) :: switches, rest)
    else misused (ofText "invalid option -- '" ++ [c, '\'']) t.code

/-- Reads a long name. -/
def readLong (t : SwitchTable) (w : Octets) (rest : List Octets) :
    Action ((Char × Octets) × List Octets) := do
  let name := w.takeWhile (· != '=')
  let value := w.drop (name.length + 1)
  match t.long.lookup (String.ofList name) with
  | none => misused (ofText "unrecognized option '--" ++ w ++ ['\'']) t.code
  | some c =>
    if !t.valued.toList.contains c || name.length < w.length then return ((c, value), rest)
    else
      match rest with
      | v :: rest => return ((c, v), rest)
      | [] => misused (ofText "option '--" ++ name ++ ofText "' requires an argument") t.code

/-- Reads the words of a program. -/
def read (t : SwitchTable) (words : List Octets) : Action Words := do
  go (words.length + 1) words [] []
where
  go : Nat → List Octets → List (Char × Octets) → List Octets → Action Words
    | 0, rest, switches, operands => return ⟨switches, operands ++ rest⟩
    | _, [], switches, operands => return ⟨switches, operands⟩
    | fuel + 1, w :: rest, switches, operands => do
      match w with
      | ['-', '-'] => return ⟨switches, operands ++ rest⟩
      | '-' :: '-' :: name => do
        let (switch, rest) ← t.readLong name rest
        go fuel rest (switches ++ [switch]) operands
      | '-' :: c :: more => do
        let (found, rest) ← t.readLetters (c :: more) rest
        go fuel rest (switches ++ found) operands
      | w =>
        if t.anywhere then go fuel rest switches (operands ++ [w])
        else return ⟨switches, operands ++ w :: rest⟩

end SwitchTable

/-! ### Reading -/

/-- What is read from a file; a single dash stands for the input. -/
def contentOf (path : Octets) : Action (Except Errno Octets) := do
  let fd? : Option Nat := if path == ['-'] then some 0 else devicePath? path
  match fd? with
  | some fd =>
    match ← opened? fd with
    | some (_, .file place _ _ true _) =>
      if (← get).system.tree.at? place == some .directory then return .error .isDirectory
      else return .ok ((← readAll fd).getD [])
    | _ => return .ok ((← readAll fd).getD [])
  | none =>
    let s ← get
    return (Files.readFile s.system.tree s.place (toText path)).map ofOctets

/-- The contents of the files that are named, or of the input if there are none. `complain` tells of
those that cannot be read. -/
def contentsOf (complain : Octets → Errno → Action Unit) (paths : List Octets) :
    Action (List (Octets × Octets)) := do
  let mut found : List (Octets × Octets) := []
  for path in if paths.isEmpty then [['-']] else paths do
    match ← contentOf path with
    | .ok content => found := found ++ [(path, content)]
    | .error errno => complain path errno
  return found

/-- Tells that a file cannot be read by its name and the reason. -/
def plainly (path : Octets) (errno : Errno) : Action Unit :=
  refuse (quotedIfNeeded path ++ ofText s!": {errno.reason}")

/-- The lines of a text and whether the last one is finished. -/
def withEnds (text : Octets) : List Octets :=
  let lines := linesOf text
  let finished := text.isEmpty || text.getLast? == some '\n'
  lines.zipIdx.map fun (l, k) => if k + 1 == lines.length && !finished then l else l ++ ['\n']

/-- A number without a sign. -/
def natural? (s : Octets) : Option Nat := plainNumber? s

/-- A text brought to a width by blanks in front. -/
def rightAligned (width : Nat) (s : Octets) : Octets := List.replicate (width - s.length) ' ' ++ s

end PlaybookLint.Utility
