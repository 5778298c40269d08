import PlaybookLint.Shell.Expression
import PlaybookLint.Utility.Operand

/-!
Programs that search texts and change them.
-/

namespace PlaybookLint.Utility

open Shell Shell.Action

/-! ### Searching -/

/-- A text read as one that has no special characters. -/
def literally (s : Octets) : Octets :=
  s.flatMap fun c => if isNameChar c || 128 ≤ c.toNat then [c] else ['\\', c]

/-- The places at which something that is sought occurs in a line. -/
def occurrences (patterns : List Pattern) (line : String) : List (Nat × Nat) :=
  let subject := line.toList.toArray
  go subject (subject.size + 2) 0
where
  first (subject : Pattern.Subject) (start : Nat) : Option (Nat × Nat) :=
    let all := patterns.filterMap fun p => (findExpression? p subject start).bind fun groups =>
      (groups.head?).bind id
    all.foldl (fun best (a, b) =>
      match best with
      | none => some (a, b)
      | some (c, d) => if a < c || (a == c && d < b) then some (a, b) else some (c, d)) none
  go (subject : Pattern.Subject) : Nat → Nat → List (Nat × Nat)
    | 0, _ => []
    | fuel + 1, start =>
      if subject.size < start then []
      else
        match first subject start with
        | none => []
        | some (a, b) => (a, b) :: go subject fuel (if b == a then b + 1 else b)

/-- The pattern that a word asks for. -/
def soughtPattern (w : Words) (extended : Bool) (expression : Octets) : Option Pattern :=
  let literal := w.has 'F'
  let body := if literal then literally expression else expression
  let group (s : Octets) : Octets := if extended || literal then ['('] ++ s ++ [')'] else
    ['\\', '('] ++ s ++ ['\\', ')']
  let body := if w.has 'x' then ['^'] ++ group body ++ ['$']
    else if w.has 'w' then ['\\', 'b'] ++ group body ++ ['\\', 'b'] else body
  compileExpression (extended || literal) (w.has 'i' || w.has 'y') body

/-- Does a line hold what is sought? -/
def isHit (w : Words) (patterns : List Pattern) (line : Octets) : Bool :=
  patterns.any (occursIn · line) != w.has 'v'

/-- The files that a path stands for when directories are gone through. -/
def filesBelow (tree : Files.Tree) (cwd : Files.Place) : Nat → Octets → List Octets
  | 0, path => [path]
  | depth + 1, path =>
    match Files.walk tree cwd (toText path) with
    | .error _ => [path]
    | .ok place =>
      if tree.at? place == some .directory then
        (sortTexts ((namesAt tree place).map ofText)).flatMap fun name =>
          filesBelow tree cwd depth (path ++ ['/'] ++ name)
      else [path]

def grep (form : Option Char) (words : List Octets) : Action Unit := do
  let long := [("quiet", 'q'), ("silent", 'q'), ("ignore-case", 'i'), ("invert-match", 'v'),
    ("line-number", 'n'), ("count", 'c'), ("extended-regexp", 'E'), ("fixed-strings", 'F'),
    ("only-matching", 'o'), ("word-regexp", 'w'), ("line-regexp", 'x'), ("files-with-matches", 'l'),
    ("files-without-match", 'L'), ("regexp", 'e'), ("no-messages", 's'), ("no-filename", 'h'),
    ("with-filename", 'H'), ("max-count", 'm'), ("color", 'k'), ("text", 'a')]
  let w ← SwitchTable.read
    { letters := "qivncEFGPowxlLshHyrRaz", valued := "emABC", long, code := 2 } words
  let w : Words := { w with switches := w.switches ++ (form.map fun c => (c, [])).toList }
  let given := (w.switches.filter (·.1 == 'e')).map (·.2)
  let (sources, paths) ← match given, w.operands with
    | [], [] => do
      say (ofText "Usage: grep [OPTION]... PATTERNS [FILE]...\n")
      say (ofText "Try 'grep --help' for more information.\n")
      throw (.exit 2)
    | [], first :: rest => pure ([first], rest)
    | given, rest => pure (given, rest)
  let extended := w.has 'E' || w.has 'P'
  let compiled := (sources.flatMap linesOfPattern).map (soughtPattern w extended)
  if compiled.any Option.isNone then
    refuse (ofText "Invalid regular expression") 2
    throw (.exit 2)
  let patterns := compiled.filterMap id
  let mut found := false
  let mut failed := false
  let recursive := w.has 'r' || w.has 'R'
  let named := (1 < paths.length || w.has 'H' || recursive) && !w.has 'h'
  let s ← get
  let paths := if recursive then
      (if paths.isEmpty then [['.']] else paths).flatMap (filesBelow s.system.tree s.place 64)
    else paths
  for path in if paths.isEmpty then [['-']] else paths do
    match ← contentOf path with
    | .error errno =>
      failed := true
      if !w.has 's' then notice (path ++ ofText s!": {errno.reason}")
    | .ok text =>
      let shownPath := if path == ['-'] then ofText "(standard input)" else path
      let hits := ((linesOf text).zipIdx).filter fun (line, _) => isHit w patterns line
      let hits := match w.value? 'm' with
        | some n => hits.take (digitsValue n)
        | none => hits
      if !hits.isEmpty then found := true
      if w.has 'q' then pure ()
      else if w.has 'l' then put (if hits.isEmpty then [] else shownPath ++ ['\n'])
      else if w.has 'L' then put (if hits.isEmpty then shownPath ++ ['\n'] else [])
      else
        let start : Octets := if named then shownPath ++ [':'] else []
        if w.has 'c' then put (start ++ numberText hits.length ++ ['\n'])
        else
          for (line, k) in hits do
            let start := start ++ (if w.has 'n' then numberText ((k + 1 : Nat) : Int) ++ [':'] else [])
            if w.has 'o' then
              let whole := toText line
              for (a, b) in occurrences patterns whole do
                if a < b then
                  let part := (whole.toList.take b).drop a
                  put (start ++ ofText (String.ofList part) ++ ['\n'])
            else put (start ++ line ++ ['\n'])
  setStatus (if found && (w.has 'q' || !failed) then 0 else if failed then 2 else 1)
where
  linesOfPattern (s : Octets) : List Octets := if s.isEmpty then [[]] else linesOf s

/-! ### Changing -/

/-- Where a command of an editor applies. -/
inductive Address where
  | line (n : Nat)
  | last
  | expression (p : Pattern)
  | every (first step : Nat)

/-- What an editor does with a line. -/
inductive Edit where
  | replace (p : Pattern) (replacement : Octets) (all prints : Bool) (number : Nat)
  | transpose (source goal : Octets)
  | delete
  | print
  | showNumber
  | quit (code : Nat) (silent : Bool)
  | before (text : Octets)
  | after (text : Octets)
  | instead (text : Octets)
  | next
  | nothing

structure EditCommand where
  first : Option Address
  second : Option Address
  negated : Bool
  edit : Edit

/-- Takes text up to a divider; a backslash keeps a divider from dividing. -/
def takeDivided (divider : Char) : Octets → Option (Octets × Octets)
  | [] => none
  | '\\' :: c :: rest =>
    (takeDivided divider rest).map fun (s, after) =>
      (if c == divider then c :: s else if c == 'n' && divider != 'n' then '\\' :: 'n' :: s
        else '\\' :: c :: s, after)
  | c :: rest =>
    if c == divider then some ([], rest)
    else (takeDivided divider rest).map fun (s, after) => (c :: s, after)

/-- Reads an address. -/
def readAddress (extended : Bool) (s : Octets) : Option (Option Address × Octets) :=
  match s with
  | '$' :: rest => some (some .last, rest)
  | '/' :: rest =>
    match takeDivided '/' rest with
    | none => none
    | some (expression, after) =>
      let (folds, after) : Bool × Octets := match after with
        | 'I' :: after => (true, after)
        | after => (false, after)
      (compileExpression extended folds expression).map fun p => (some (.expression p), after)
  | s =>
    let digits := s.takeWhile isDigit
    let after := s.drop digits.length
    if digits.isEmpty then some (none, s)
    else
      match after with
      | '~' :: more =>
        let step := more.takeWhile isDigit
        some (some (.every (digitsValue digits) (digitsValue step)), more.drop step.length)
      | after => some (some (.line (digitsValue digits)), after)

/-- Why a script of an editor cannot be read. -/
def editFault (sign : String) : Octets := ofText sign

/-- The text after a command that puts text in. -/
def insertedText (s : Octets) : Octets × Octets :=
  let s := s.dropWhile isBlank
  let s := match s with
    | '\\' :: '\n' :: rest => rest
    | '\\' :: rest => rest
    | s => s
  let line := s.takeWhile (· != '\n')
  (line, s.drop line.length)

/-- Reads what a command does. -/
def readEdit (extended : Bool) (s : Octets) : Except Octets (Edit × Octets) :=
  match s with
  | 's' :: divider :: rest =>
    match takeDivided divider rest with
    | none => .error (editFault "unterminated \x60s' command")
    | some (expression, rest) =>
      match takeDivided divider rest with
      | none => .error (editFault "unterminated \x60s' command")
      | some (replacement, rest) =>
        let flags := rest.takeWhile fun c => isDigit c || ['g', 'p', 'i', 'I', 'e', 'm', 'M'].contains c
        let number := digitsValue (flags.filter isDigit)
        let folds := flags.contains 'i' || flags.contains 'I'
        match compileExpression extended folds expression with
        | none => .error (editFault "Invalid preceding regular expression")
        | some p =>
          .ok (.replace p replacement (flags.contains 'g') (flags.contains 'p') (max 1 number),
            rest.drop flags.length)
  | 'y' :: divider :: rest =>
    match (takeDivided divider rest).bind fun (source, rest) =>
        (takeDivided divider rest).map fun (goal, rest) => (source, goal, rest) with
    | some (source, goal, rest) => .ok (.transpose source goal, rest)
    | none => .error (editFault "unterminated \x60y' command")
  | 'd' :: rest => .ok (.delete, rest)
  | 'p' :: rest => .ok (.print, rest)
  | '=' :: rest => .ok (.showNumber, rest)
  | 'n' :: rest => .ok (.next, rest)
  | 'q' :: rest => quitting false rest
  | 'Q' :: rest => quitting true rest
  | 'i' :: rest => .ok ((.before (insertedText rest).1, (insertedText rest).2))
  | 'a' :: rest => .ok ((.after (insertedText rest).1, (insertedText rest).2))
  | 'c' :: rest => .ok ((.instead (insertedText rest).1, (insertedText rest).2))
  | c :: _ => .error (ofText "unknown command: \x60" ++ [c, '\''])
  | [] => .error (ofText "missing command")
where
  quitting (silent : Bool) (rest : Octets) : Except Octets (Edit × Octets) :=
    let rest := rest.dropWhile isBlank
    let digits := rest.takeWhile isDigit
    .ok (.quit (digitsValue digits % 256) silent, rest.drop digits.length)

/-- Reads the commands of an editor; a fault tells how many characters have been read. -/
def readEdits (extended : Bool) (whole : Nat) :
    Nat → Octets → Except (Nat × Octets) (List EditCommand)
  | 0, _ => .ok []
  | fuel + 1, s => do
    let s := s.dropWhile fun c => isSpace c || c == ';'
    if s.isEmpty then return []
    if s.head? == some '#' then readEdits extended whole fuel (s.dropWhile (· != '\n'))
    else
      let bad (rest : Octets) (text : Octets) : Nat × Octets := (whole - rest.length, text)
      let some (first, rest) := readAddress extended s
        | throw (bad [] (ofText "unterminated address regex"))
      let (second, rest) ← match first, rest with
        | some _, ',' :: rest =>
          match readAddress extended (rest.dropWhile isBlank) with
          | some (second, rest) => pure (second, rest)
          | none => throw (bad [] (ofText "unterminated address regex"))
        | _, rest => pure (none, rest)
      let rest := rest.dropWhile isBlank
      let negated := rest.head? == some '!'
      let rest := (rest.dropWhile (· == '!')).dropWhile isBlank
      match readEdit extended rest with
      | .error text =>
        let isUnknown := (ofText "unknown").isPrefixOf text
        throw (bad (if isUnknown then rest.drop 1 else []) text)
      | .ok (edit, rest) => do
        let rest := rest.dropWhile isBlank
        match rest with
        | c :: after =>
          if c == ';' || c == '\n' || c == '#' || c == '\x7d' then pure ()
          else
            let text := match edit with
              | .replace .. => ofText "unknown option to \x60s'"
              | _ => ofText "extra characters after command"
            throw (bad after text)
        | [] => pure ()
        return ⟨first, second, negated, edit⟩ :: (← readEdits extended whole fuel rest)

/-- A replacement with the groups of a match put in. -/
def fillIn (subject : Pattern.Subject) (groups : List (Option (Nat × Nat))) : Octets → Octets
  | [] => []
  | '\\' :: c :: rest =>
    if isDigit c then taken (c.toNat - 48) ++ fillIn subject groups rest
    else if c == 'n' then '\n' :: fillIn subject groups rest
    else if c == 't' then '\t' :: fillIn subject groups rest
    else c :: fillIn subject groups rest
  | '&' :: rest => taken 0 ++ fillIn subject groups rest
  | c :: rest => c :: fillIn subject groups rest
where
  taken (k : Nat) : Octets :=
    match (groups[k]?).bind id with
    | some (a, b) => ofText (String.ofList (subject.extract a b).toList)
    | none => []

/-- A line with matches replaced, from the one of a number on; was there any? -/
def replaceIn (p : Pattern) (replacement : Octets) (all : Bool) (number : Nat) (line : Octets) :
    Octets × Bool :=
  let subject := (toText line).toList.toArray
  go subject (subject.size + 2) 0 1 [] false
where
  part (subject : Pattern.Subject) (a b : Nat) : Octets :=
    ofText (String.ofList (subject.extract a b).toList)
  go (subject : Pattern.Subject) : Nat → Nat → Nat → Octets → Bool → Octets × Bool
    | 0, start, _, done, found => (done ++ part subject start subject.size, found)
    | fuel + 1, start, count, done, found =>
      if subject.size < start then (done, found)
      else
        match (findExpression? p subject start).map fun groups => (groups, (groups.head?).bind id) with
        | some (groups, some (a, b)) =>
          let chosen := count == number || (all && number ≤ count)
          let between := part subject start a
          let instead := if chosen then fillIn subject groups replacement else part subject a b
          let (next, kept) := if a == b then (b + 1, part subject b (b + 1)) else (b, [])
          let done := done ++ between ++ instead ++ kept
          if chosen && !all then (done ++ part subject next subject.size, true)
          else go subject fuel next (count + 1) done (found || chosen)
        | _ => (done ++ part subject start subject.size, found)

/-- A line that is being edited. -/
structure Edited where
  line : Octets
  /-- What is written before the line, and after it. -/
  before : Octets := []
  after : Octets := []
  deleted : Bool := false
  quits : Option Nat := none
  /-- For each command whether it is inside the range of its addresses. -/
  inside : List Bool

/-- Does an address stand for a line? -/
def Address.fits (number : Nat) (isLast : Bool) (line : Octets) : Address → Bool
  | .line n => n == number
  | .last => isLast
  | .expression p => occursIn p line
  | .every first step =>
    if step == 0 then number == first else first ≤ number && (number - first) % step == 0

/-- Does a command apply, and is its range gone on with? -/
def EditCommand.applies (c : EditCommand) (number : Nat) (isLast : Bool) (line : Octets)
    (inside : Bool) : Bool × Bool :=
  let fits (a : Address) : Bool := a.fits number isLast line
  let (hit, goesOn) := match c.first, c.second with
    | none, _ => (true, false)
    | some a, none => (fits a, false)
    | some a, some b =>
      if inside then
        match b with
        | .line n => (number ≤ n, number < n)
        | b => (true, !fits b)
      else if fits a then
        match b with
        | .line n => (true, number < n)
        | .last => (true, !isLast)
        | _ => (true, true)
      else (false, false)
  (hit != c.negated, goesOn)

/-- Carries out commands on a line. -/
def editLine (silent : Bool) (number : Nat) (isLast : Bool) :
    List EditCommand → List Bool → Edited → Edited
  | [], _, e => e
  | c :: rest, inside, e =>
    let (hit, goesOn) := c.applies number isLast e.line (inside.headD false)
    let e := { e with inside := e.inside ++ [goesOn] }
    let others (e : Edited) : Edited := editLine silent number isLast rest (inside.drop 1) e
    let ending (e : Edited) : Edited := { e with inside := e.inside ++ inside.drop 1 }
    if !hit then others e
    else
      match c.edit with
      | .replace p replacement all prints number =>
        let (line, found) := replaceIn p replacement all number e.line
        others { e with line, before := e.before ++ (if found && prints then line ++ ['\n'] else []) }
      | .transpose source goal =>
        let change (x : Char) : Char :=
          ((source.idxOf? x).bind fun k => goal[k]?).getD x
        others { e with line := e.line.map change }
      | .delete => ending { e with deleted := true }
      | .print => others { e with before := e.before ++ e.line ++ ['\n'] }
      | .showNumber => others { e with before := e.before ++ numberText number ++ ['\n'] }
      | .quit code silent => ending { e with quits := some code, deleted := silent }
      | .before text => others { e with before := e.before ++ text ++ ['\n'] }
      | .after text => others { e with after := e.after ++ text ++ ['\n'] }
      | .instead text => ending { e with before := e.before ++ text ++ ['\n'], deleted := true }
      | .next => ending e
      | .nothing => others e

/-- Carries out commands on all lines: what is written, and the status if it ends early. -/
def editLines (silent : Bool) (commands : List EditCommand) (total : Nat) :
    List Octets → Nat → List Bool → Octets × Option Nat
  | [], _, _ => ([], none)
  | line :: rest, number, inside =>
    let ended := line.getLast? == some '\n'
    let body := if ended then line.dropLast else line
    let e := editLine silent number (number == total) commands inside
      { line := body, inside := [] }
    let tail : Octets := if ended then ['\n'] else []
    let shown := e.before ++ (if e.deleted || silent then [] else e.line ++ tail) ++ e.after
    match e.quits with
    | some code => (shown, some code)
    | none =>
      let (more, quits) := editLines silent commands total rest (number + 1) e.inside
      (shown ++ more, quits)

def sed (words : List Octets) : Action Unit := do
  let long := [("quiet", 'n'), ("silent", 'n'), ("expression", 'e'), ("regexp-extended", 'E'),
    ("in-place", 'i'), ("file", 'f')]
  let words := words.map fun w => if (ofText "-i").isPrefixOf w then ['-', 'i'] else w
  let w ← SwitchTable.read { letters := "nErsuzi", valued := "ef", long } words
  let extended := w.has 'E' || w.has 'r'
  let given := (w.switches.filter (·.1 == 'e')).map (·.2)
  let (script, paths) ← match given, w.operands with
    | [], [] => do
      say (ofText "Usage: sed [OPTION]... \x7bscript-only-if-no-other-script\x7d [input-file]...\n\n")
      throw (.exit 1)
    | [], first :: rest => pure (first, rest)
    | given, rest => pure (['\n'].intercalate given, rest)
  match readEdits extended script.length (script.length + 1) script with
  | .error (place, text) => do
    let place := numberText place
    refuse (ofText "-e expression #1, char " ++ place ++ ofText ": " ++ text)
  | .ok commands => do
    let refused (path : Octets) (errno : Errno) : Action Unit := do
      match errno with
      | .isDirectory => notice (ofText "couldn't edit " ++ path ++ ofText ": not a regular file")
      | e => notice (ofText "can't read " ++ path ++ ofText s!": {e.reason}")
      setStatus 2
    let found ← contentsOf refused paths
    if w.has 'i' then
      for (path, text) in found do
        let lines := withEnds text
        let (shown, _) := editLines (w.has 'n') commands lines.length lines 1 []
        match ← createFile path true with
        | .ok place => modifySystem fun y => { y with tree := putContent y.tree place shown }
        | .error _ => pure ()
    else
      let lines := found.flatMap fun (_, text) => withEnds text
      let (shown, quits) := editLines (w.has 'n') commands lines.length lines 1 []
      put shown
      match quits with
      | some code => setStatus code
      | none => pure ()

end PlaybookLint.Utility
