import PlaybookLint.Utility.Operand

/-!
Programs that go through texts line by line.
-/

namespace PlaybookLint.Utility

open Shell Shell.Action

/-- Writes what comes as it comes. -/
def passOn (data : List (Nat × Char)) : Action Unit := do
  let times := (data.map (·.1)).eraseDups
  for time in times do
    let _ ← writeAt 1 (max time (← now)) ((data.filter (·.1 == time)).map (·.2))

/-- A character as it is shown when nothing may be invisible. -/
def shownChar (tabs : Bool) (c : Char) : Octets :=
  let n := c.toNat
  if c == '\t' then (if tabs then ['^', 'I'] else [c])
  else if n < 32 then ['^', Char.ofNat (n + 64)]
  else if n == 127 then ['^', '?']
  else if n < 128 then [c]
  else if n < 160 then ['M', '-', '^', Char.ofNat (n - 64)]
  else if n == 255 then ['M', '-', '^', '?']
  else ['M', '-', Char.ofNat (n - 128)]

/-- The lines of a text as they are shown with numbers and signs. -/
def decorate (w : Words) (text : Octets) : Octets := go 1 false (withEnds text)
where
  shows (c : Char) : Bool := w.has c || w.has 'A' || (w.has 'e' && c != 'T') || (w.has 't' && c != 'E')
  go (number : Nat) (afterEmpty : Bool) : List Octets → Octets
    | [] => []
    | line :: rest =>
      let isEmpty := line == ['\n']
      if w.has 's' && isEmpty && afterEmpty then go number true rest
      else
        let counts := if w.has 'b' then !isEmpty else w.has 'n'
        let head := if counts then rightAligned 6 (numberText number) ++ ['\t'] else []
        let ended := line.getLast? == some '\n'
        let body := if ended then line.dropLast else line
        let body := if shows 'v' then body.flatMap (shownChar (shows 'T'))
          else if shows 'T' then body.flatMap fun c => if c == '\t' then ['^', 'I'] else [c] else body
        let tail : Octets := if ended then (if shows 'E' then ['$', '\n'] else ['\n']) else []
        head ++ body ++ tail ++ go (if counts then number + 1 else number) isEmpty rest

def cat (words : List Octets) : Action Unit := do
  let w ← SwitchTable.read { letters := "AbeEnstTuv" } words
  let decorated := w.switches.any (·.1 != 'u')
  if (← opened? 1).isNone then
    refuse (ofText "standard output: Bad file descriptor")
    throw (.exit 1)
  for path in if w.operands.isEmpty then [['-']] else w.operands do
    if path == ['-'] && (← opened? 0).isNone then
      notice (ofText "-: Bad file descriptor")
      refuse (ofText "closing standard input: Bad file descriptor")
      continue
    let isStream ← match ← opened? 0 with
      | some (_, .file ..) => pure false
      | _ => pure true
    if path == ['-'] && !decorated && isStream then
      match ← readTimed 0 with
      | none => pure ()
      | some (data, closes) => do
        passOn data
        match closes with
        | none => throw .never
        | some time => waitUntil time
    else
      match ← contentOf path with
      | .ok text => put (if decorated then decorate w text else text)
      | .error errno => plainly path errno

/-- Tells that a file cannot be opened. -/
def notOpened (path : Octets) (errno : Errno) : Action Unit :=
  match errno with
  | .isDirectory => refuse (ofText "error reading " ++ alwaysQuoted path ++ ofText ": Is a directory")
  | e => refuse (ofText "cannot open " ++ alwaysQuoted path ++ ofText s!" for reading: {e.reason}")

/-- What is kept of a text: lines or characters, how many, and whether all but so many are meant. -/
structure Extent where
  lines : Bool
  count : Nat
  sign : Option Char

/-- The extent that switches ask for. -/
def extentOf (w : Words) : Action Extent := do
  let (lines, text) := match w.value? 'c', w.value? 'n' with
    | some v, _ => (false, v)
    | none, some v => (true, v)
    | none, none => (true, ofText "10")
  let (sign, digits) : Option Char × Octets := match text with
    | '-' :: rest => (some '-', rest)
    | '+' :: rest => (some '+', rest)
    | rest => (none, rest)
  match natural? digits with
  | some n => return ⟨lines, n, sign⟩
  | none => do
    let what := if lines then "lines" else "bytes"
    notice (ofText s!"invalid number of {what}: " ++ quoted (← get) text)
    throw (.exit 1)

/-- An old switch that is a number, as it is written now. It comes first. -/
def modernised : List Octets → List Octets
  | ('-' :: d :: digits) :: rest =>
    if isDigit d && digits.all isDigit then ('-' :: 'n' :: d :: digits) :: rest
    else ('-' :: d :: digits) :: rest
  | words => words

/-- The beginning of a text. -/
def headOf (e : Extent) (text : Octets) : Octets :=
  let pieces := if e.lines then withEnds text else text.map fun c => [c]
  let kept := if e.sign == some '-' then pieces.take (pieces.length - e.count) else pieces.take e.count
  kept.flatten

/-- The end of a text. -/
def tailOf (e : Extent) (text : Octets) : Octets :=
  let pieces := if e.lines then withEnds text else text.map fun c => [c]
  let kept := if e.sign == some '+' then pieces.drop (e.count - 1)
    else pieces.drop (pieces.length - e.count)
  kept.flatten

/-- Passes lines of the input on, no more than a number of them. -/
def passLines : Nat → Action Unit
  | 0 => return
  | n + 1 => do
    let (line, ended) ← readUpTo 0 '\n'
    put (if ended then line ++ ['\n'] else line)
    if ended then passLines n

/-- Shows a part of each file, under its name if there are several. -/
def showParts (w : Words) (part : Octets → Octets) : Action Unit := do
  let named := (1 < w.operands.length || w.has 'v') && !w.has 'q'
  let mut first := true
  for path in if w.operands.isEmpty then [['-']] else w.operands do
    match ← contentOf path with
    | .error errno => notOpened path errno
    | .ok text => do
      if named then
        let shown := if path == ['-'] then ofText "standard input" else path
        put ((if first then [] else ['\n']) ++ ofText "==> " ++ shown ++ ofText " <==\n")
      first := false
      put (part text)

def head (words : List Octets) : Action Unit := do
  let long := [("lines", 'n'), ("bytes", 'c'), ("quiet", 'q'), ("verbose", 'v')]
  let w ← SwitchTable.read { letters := "qv", valued := "nc", long } (modernised words)
  let e ← extentOf w
  if w.operands.isEmpty && e.lines && e.sign.isNone then passLines e.count
  else showParts w (headOf e)

def tail (words : List Octets) : Action Unit := do
  let long := [("lines", 'n'), ("bytes", 'c'), ("quiet", 'q'), ("verbose", 'v'), ("follow", 'f')]
  let w ← SwitchTable.read { letters := "qvf", valued := "nc", long } (modernised words)
  let e ← extentOf w
  showParts w (tailOf e)
  if w.has 'f' then throw .never

/-- The counts of a text. -/
def countsOf (w : Words) (text : Octets) : List Nat :=
  let all := !(w.has 'l' || w.has 'w' || w.has 'c' || w.has 'm')
  let lines := text.count '\n'
  let words := ((splitWords text).filter (!·.isEmpty)).length
  (if all || w.has 'l' then [lines] else []) ++ (if all || w.has 'w' then [words] else [])
    ++ (if w.has 'm' then [(toText text).length] else [])
    ++ (if all || w.has 'c' then [text.length] else [])
where
  splitWords : Octets → List Octets
    | [] => [[]]
    | c :: rest =>
      if isSpace c then [] :: splitWords rest
      else
        match splitWords rest with
        | [] => [[c]]
        | piece :: pieces => (c :: piece) :: pieces

/-- Adds counts up. -/
def addCounts : List Nat → List Nat → List Nat
  | a :: as, b :: bs => (a + b) :: addCounts as bs
  | [], bs => bs
  | as, [] => as

def wc (words : List Octets) : Action Unit := do
  let long := [("lines", 'l'), ("words", 'w'), ("bytes", 'c'), ("chars", 'm')]
  let w ← SwitchTable.read { letters := "lwcm", long } words
  let isFile ← match ← opened? 0 with
    | some (_, .file ..) => pure true
    | _ => pure false
  let found ← contentsOf plainly w.operands
  let rows := found.map fun (path, text) => (path, countsOf w text)
  let total := rows.foldl (fun t (_, counts) => addCounts t counts) []
  let sizes : Nat := found.foldl (fun n (_, text) => n + text.length) 0
  let single := (rows.head?.map (·.2.length)).getD 1 == 1 && w.operands.length ≤ 1
  let piped := (w.operands.isEmpty || w.operands.contains ['-']) && !isFile
  let width := if single then 1 else if piped then 7 else (numberText sizes).length
  let row (counts : List Nat) (name : Octets) : Octets :=
    let shown := [' '].intercalate (counts.map fun (n : Nat) => rightAligned width (numberText n))
    shown ++ (if name.isEmpty then [] else ' ' :: name) ++ ['\n']
  for (path, counts) in rows do
    put (row counts (if w.operands.isEmpty then [] else path))
  if 1 < w.operands.length then
    put (row (if total.isEmpty then [0, 0, 0] else total) (ofText "total"))

/-! ### Order -/

/-- The number at the beginning of a line: its sign, whole part and fraction. -/
def leadingValue (s : Octets) : Int × Octets :=
  let s := s.dropWhile isBlank
  let (negative, digits) : Bool × Octets := match s with
    | '-' :: rest => (true, rest)
    | rest => (false, rest)
  let whole := digits.takeWhile isDigit
  let fraction := match digits.drop whole.length with
    | '.' :: rest => rest.takeWhile isDigit
    | _ => []
  let n : Int := digitsValue whole
  (if negative then -n else n, fraction)

/-- The field of a line that a key begins with, and what follows up to its end. -/
def keyOf (w : Words) (line : Octets) : Octets :=
  match w.value? 'k' with
  | none => line
  | some key =>
    let number (s : Octets) : Nat := digitsValue (s.takeWhile isDigit)
    let first := number key
    let last? := match key.dropWhile (· != ',') with
      | ',' :: rest => some (number rest)
      | _ => none
    let fields := match (w.value? 't').bind List.head? with
      | some c => splitAt c line
      | none => blankFields line
    let chosen := match last? with
      | some last => (fields.take last).drop (first - 1)
      | none => fields.drop (first - 1)
    match (w.value? 't').bind List.head? with
    | some c => [c].intercalate chosen
    | none => chosen.flatten
where
  /-- Fields begin with the blanks before them. -/
  blankFields (s : Octets) : List Octets := go (s.length + 1) s
  go : Nat → Octets → List Octets
    | 0, _ => []
    | _, [] => []
    | fuel + 1, s =>
      let blanks := s.takeWhile isBlank
      let text := (s.drop blanks.length).takeWhile (!isBlank ·)
      (blanks ++ text) :: go fuel (s.drop (blanks.length + text.length))

/-- Does a line come before another by their keys? -/
def keyBefore (w : Words) (a b : Octets) : Bool :=
  let letters := w.switches.map (·.1) ++ ((w.value? 'k').getD []).filter isLetter
  let a := keyOf w a
  let b := keyOf w b
  let fold (s : Octets) : Octets :=
    let s := if letters.contains 'b' then s.dropWhile isBlank else s
    let s := if letters.contains 'd' then s.filter fun c => isBlank c || isLetter c || isDigit c else s
    if letters.contains 'f' then s.map upperOf else s
  if letters.contains 'n' then
    let (m, f) := leadingValue a
    let (n, g) := leadingValue b
    m < n || (m == n && (if m < 0 then isBefore g f else isBefore f g))
  else isBefore (fold a) (fold b)

/-- Sorts lines; those with equal keys are compared as a whole unless told otherwise. -/
def sortLines (w : Words) (lines : List Octets) : List Octets :=
  let reversed := w.has 'r' || ((w.value? 'k').getD []).contains 'r'
  let keyed (a b : Octets) : Bool := if reversed then keyBefore w b a else keyBefore w a b
  let same (a b : Octets) : Bool := !keyBefore w a b && !keyBefore w b a
  let before (a b : Octets) : Bool :=
    keyed a b || (same a b && !w.has 's' && !w.has 'u'
      && (if w.has 'r' then isBefore b a else isBefore a b))
  let sorted := lines.mergeSort fun a b => !before b a
  if w.has 'u' then dropSame same sorted else sorted
where
  dropSame (same : Octets → Octets → Bool) : List Octets → List Octets
    | [] => []
    | a :: rest =>
      match dropSame same rest with
      | b :: more => if same a b then a :: more else a :: b :: more
      | [] => [a]

def sort (words : List Octets) : Action Unit := do
  let long := [("reverse", 'r'), ("unique", 'u'), ("numeric-sort", 'n'), ("key", 'k'),
    ("field-separator", 't'), ("ignore-case", 'f'), ("output", 'o'), ("stable", 's'), ("check", 'c')]
  let w ← SwitchTable.read { letters := "bdfnrsucCghMRVz", valued := "kto", long, code := 2 } words
  let refused (path : Octets) (errno : Errno) : Action Unit := do
    match errno with
    | .isDirectory => refuse (ofText "read failed: " ++ quotedIfNeeded path ++ ofText ": Is a directory") 2
    | e => refuse (ofText "cannot read: " ++ quotedIfNeeded path ++ ofText s!": {e.reason}") 2
    throw (.exit 2)
  let found ← contentsOf refused w.operands
  let lines := found.flatMap fun (_, text) => linesOf text
  if w.has 'c' || w.has 'C' then
    let before (a b : Octets) : Bool := if w.has 'r' then keyBefore w b a else keyBefore w a b
    let disorder := (lines.zip (lines.drop 1)).zipIdx.find? fun ((a, b), _) =>
      before b a || (w.has 'u' && !before a b)
    match disorder with
    | none => return
    | some ((_, b), k) => do
      if w.has 'c' then
        let path := w.operands.headD ['-']
        notice (path ++ [':'] ++ numberText ((k + 2 : Nat) : Int) ++ ofText ": disorder: " ++ b)
      setStatus 1
  else
    let sorted := ((sortLines w lines).map (· ++ ['\n'])).flatten
    match w.value? 'o' with
    | none => put sorted
    | some path =>
      match ← createFile path true with
      | .ok place => modifySystem fun y => { y with tree := putContent y.tree place sorted }
      | .error _ => refuse (ofText "open failed: " ++ path ++ ofText ": No such file or directory") 2

/-- Lines that follow each other and are the same, with how many there are. -/
def runsOf (same : Octets → Octets → Bool) : List Octets → List (Octets × Nat)
  | [] => []
  | a :: rest =>
    match runsOf same rest with
    | (b, n) :: more => if same a b then (a, n + 1) :: more else (a, 1) :: (b, n) :: more
    | [] => [(a, 1)]

def uniq (words : List Octets) : Action Unit := do
  let long := [("count", 'c'), ("repeated", 'd'), ("unique", 'u'), ("ignore-case", 'i')]
  let w ← SwitchTable.read { letters := "cdui", valued := "fsw", long } words
  let found ← contentsOf (fun path errno => do
    plainly path errno
    throw (.exit 1)) (w.operands.take 1)
  let skipFields (s : Octets) : Octets :=
    (List.range (digitsValue ((w.value? 'f').getD []))).foldl
      (fun s _ => (s.dropWhile isBlank).dropWhile (!isBlank ·)) s
  let key (s : Octets) : Octets :=
    let s := (skipFields s).drop (digitsValue ((w.value? 's').getD []))
    let s := match w.value? 'w' with
      | some n => s.take (digitsValue n)
      | none => s
    if w.has 'i' then s.map lowerOf else s
  let runs := runsOf (fun a b => key a == key b) (found.flatMap fun (_, text) => linesOf text)
  let kept := runs.filter fun (_, n) => (!w.has 'd' || 1 < n) && (!w.has 'u' || n == 1)
  put (kept.flatMap fun (line, n) =>
    (if w.has 'c' then rightAligned 7 (numberText n) ++ [' '] else []) ++ line ++ ['\n'])

/-! ### Parts of lines -/

/-- The ranges of a list of places; one without an end goes on. -/
def rangesOf (s : Octets) : List (Nat × Option Nat) :=
  (splitAt ',' s).map fun part =>
    let first := part.takeWhile isDigit
    match part.drop first.length with
    | '-' :: last => (max 1 (digitsValue first), if last.isEmpty then none else some (digitsValue last))
    | _ => (digitsValue first, some (digitsValue first))

/-- Is a place, counted from one, in the ranges? -/
def isIn (ranges : List (Nat × Option Nat)) (place : Nat) : Bool :=
  ranges.any fun (first, last) =>
    first ≤ place && (match last with
      | some last => place ≤ last
      | none => true)

def cut (words : List Octets) : Action Unit := do
  let long := [("delimiter", 'd'), ("fields", 'f'), ("characters", 'c'), ("bytes", 'b'),
    ("only-delimited", 's'), ("complement", '!'), ("output-delimiter", 'o')]
  let w ← SwitchTable.read { letters := "s!n", valued := "dfcbo", long } words
  let list? := (w.value? 'f').or ((w.value? 'c').or (w.value? 'b'))
  match list? with
  | none => misused (ofText "you must specify a list of bytes, characters, or fields")
  | some list => do
    let ranges := rangesOf list
    let wanted (k : Nat) : Bool := isIn ranges (k + 1) != w.has '!'
    let delimiter := ((w.value? 'd').getD ['\t']).headD '\x00'
    let between := (w.value? 'o').getD [delimiter]
    let chosen {α : Type} (parts : List α) : List α :=
      (parts.zipIdx.filter fun (_, k) => wanted k).map (·.1)
    let found ← contentsOf plainly w.operands
    for (_, text) in found do
      for line in linesOf text do
        if !w.has 'f' then put (chosen line ++ ['\n'])
        else if line.contains delimiter then
          put (between.intercalate (chosen (splitAt delimiter line)) ++ ['\n'])
        else if !w.has 's' then put (line ++ ['\n'])

/-- Lines of several files side by side. -/
def paste (words : List Octets) : Action Unit := do
  let w ← SwitchTable.read { letters := "s", valued := "d", long := [("delimiters", 'd'), ("serial", 's')] }
    words
  let delimiters := (unescape (.word .extended) ((w.value? 'd').getD ['\t'])).1
  let found ← contentsOf plainly w.operands
  let columns := found.map fun (_, text) => linesOf text
  let rows := if w.has 's' then columns
    else
      let height := (columns.map List.length).foldl max 0
      (List.range height).map fun k => columns.map fun lines => (lines[k]?).getD []
  let mark (k : Nat) : Octets := ((delimiters[k % delimiters.length]?).map fun c => [c]).getD []
  for row in rows do
    let shown := row.zipIdx.flatMap fun (cell, k) => (if k == 0 then [] else mark (k - 1)) ++ cell
    put (shown ++ ['\n'])

/-! ### Characters -/

/-- The characters of a set: ranges, classes and escapes carried out. -/
def charSet : Nat → Octets → Octets
  | 0, _ => []
  | _, [] => []
  | fuel + 1, s =>
    match s with
    | '[' :: ':' :: rest =>
      let name := rest.takeWhile (· != ':')
      let members := ((List.range 128).map Char.ofNat).filter (Glob.inClass (String.ofList name))
      members ++ charSet fuel (rest.drop (name.length + 2))
    | '\\' :: c :: rest =>
      let digits := ((c :: rest).takeWhile isOctal).take 3
      if !digits.isEmpty then
        octetOf (readDigits 8 digits).1 :: charSet fuel ((c :: rest).drop digits.length)
      else (escapedLetter? c).getD c :: charSet fuel rest
    | a :: '-' :: b :: rest =>
      if a ≤ b then
        ((List.range (b.toNat - a.toNat + 1)).map fun k => Char.ofNat (a.toNat + k))
          ++ charSet fuel rest
      else charSet fuel rest
    | c :: rest => c :: charSet fuel rest
    | [] => []

/-- Drops characters of a kind that follow the same one. -/
def squeeze (wanted : Char → Bool) : Octets → Octets
  | [] => []
  | a :: rest =>
    match squeeze wanted rest with
    | b :: more => if a == b && wanted a then b :: more else a :: b :: more
    | [] => [a]

def tr (words : List Octets) : Action Unit := do
  let long := [("delete", 'd'), ("squeeze-repeats", 's'), ("complement", 'c')]
  let w ← SwitchTable.read { letters := "cCdst", long, anywhere := false } words
  match w.operands with
  | [] => misused (ofText "missing operand")
  | first :: rest =>
    if rest.isEmpty && !w.has 'd' && !w.has 's' then
      notice (ofText "missing operand after " ++ quoted (← get) first)
      say (ofText "Two strings must be given when translating.\n")
      seeHelp
    else
      let set := charSet (first.length + 1) first
      let goal := charSet ((rest.headD []).length + 1) (rest.headD [])
      let complement := w.has 'c' || w.has 'C'
      let inFirst (c : Char) : Bool := set.contains c != complement
      let translated (c : Char) : Char :=
        if complement then (if inFirst c then (goal.getLast?).getD c else c)
        else
          match set.idxOf? c with
          | some k => (goal[k]?).getD ((goal.getLast?).getD c)
          | none => c
      let text := (← readAll 0).getD []
      let text := if w.has 'd' then text.filter (!inFirst ·)
        else if rest.isEmpty then text else text.map translated
      let inLast (c : Char) : Bool := if rest.isEmpty then inFirst c else goal.contains c
      put (if w.has 's' then squeeze inLast text else text)

/-- Goes through the lines of files and writes what is made of them. -/
def eachText (words : List Octets) (change : List Octets → Octets) : Action Unit := do
  let w ← SwitchTable.read { letters := "" } words
  for (_, text) in ← contentsOf plainly w.operands do put (change (withEnds text))

def rev (words : List Octets) : Action Unit :=
  eachText words fun lines => lines.flatMap fun line =>
    let ended := line.getLast? == some '\n'
    let body := if ended then line.dropLast else line
    ofText (String.ofList (toText body).toList.reverse) ++ (if ended then ['\n'] else [])

def tac (words : List Octets) : Action Unit := eachText words fun lines => lines.reverse.flatten

def nl (words : List Octets) : Action Unit := do
  let w ← SwitchTable.read { letters := "p", valued := "bnvwis" } words
  for (_, text) in ← contentsOf plainly w.operands do
    let width := ((w.value? 'w').map digitsValue).getD 6
    let mark := (w.value? 's').getD ['\t']
    let mut number := ((w.value? 'v').map digitsValue).getD 1
    for line in linesOf text do
      if line.isEmpty && w.value? 'b' != some ['a'] then
        put (List.replicate (width + mark.length) ' ' ++ ['\n'])
      else
        put (rightAligned width (numberText number) ++ mark ++ line ++ ['\n'])
        number := number + 1

def fold (words : List Octets) : Action Unit := do
  let w ← SwitchTable.read { letters := "sb", valued := "w" } words
  let width := max 1 (((w.value? 'w').map digitsValue).getD 80)
  for (_, text) in ← contentsOf plainly w.operands do
    for line in withEnds text do
      let ended := line.getLast? == some '\n'
      let body := if ended then line.dropLast else line
      let count := max 1 ((body.length + width - 1) / width)
      let pieces := (List.range count).map fun k => (body.drop (k * width)).take width
      put (['\n'].intercalate pieces ++ (if ended then ['\n'] else []))

def tee (words : List Octets) : Action Unit := do
  let w ← SwitchTable.read { letters := "aip", long := [("append", 'a')] } words
  let mut places : List Files.Place := []
  for path in w.operands do
    match ← createFile path (!w.has 'a') with
    | .ok place => places := places ++ [place]
    | .error (.system errno) => plainly path errno
    | .error .exists_ => pure ()
  match ← readTimed 0 with
  | none => refuse (ofText "standard input: Bad file descriptor")
  | some (data, closes) => do
    passOn data
    for place in places do
      modifySystem fun y =>
        { y with tree := putContent y.tree place (contentAt y.tree place ++ data.map (·.2)) }
    match closes with
    | none => throw .never
    | some time => waitUntil time

/-- Says the same for ever. A part of it stands for the whole. -/
def yes (words : List Octets) : Action Unit := do
  let line := (if words.isEmpty then ['y'] else [' '].intercalate words) ++ ['\n']
  put (List.replicate 2000 line).flatten
  throw .never

end PlaybookLint.Utility
