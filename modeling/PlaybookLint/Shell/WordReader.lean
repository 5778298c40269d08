import PlaybookLint.Shell.Input

/-!
Reading words. Where a part of a word stands decides what ends it and which characters are special
there: outside quotes, between double quotes, in braces, in a document, in a sum.
-/

namespace PlaybookLint.Shell

/-- Where a part of a word stands. -/
inductive Setting where
  | bare
  | braces (stops : List Char)
  | double
  | doubleBraces (stops : List Char)
  | document
  | sum
deriving Repr, DecidableEq

/-- Is all text there quoted? -/
def Setting.quotes : Setting → Bool
  | .bare | .braces _ => false
  | _ => true

/-- Where a list of commands ends. -/
inductive ListEnd where
  /-- At the end of a line. -/
  | line
  /-- At a word that closes it; there has to be a command. -/
  | closing
  /-- At a word that closes it; it may be empty. -/
  | closingAnywhere
deriving Repr, DecidableEq

/-- The readers that readers of parts of a word or a command fall back on for what is nested. -/
structure Nested where
  list : ListEnd → Reader (List Command)
  word : Setting → Reader Word
  command : Reader Command

/-- Characters that end a word outside quotes. -/
def endsWord (c : Char) : Bool :=
  isBlank c || ['\n', ';', '&', '|', '<', '>', '(', ')'].contains c

/-- Joins texts of one kind that follow each other. -/
def mergePieces : Word → Word
  | [] => []
  | piece :: rest =>
    match piece, mergePieces rest with
    | .plain s, .plain t :: more => .plain (s ++ t) :: more
    | .quoted s, .quoted t :: more => .quoted (s ++ t) :: more
    | piece, merged => piece :: merged

/-- Marks what stood between double quotes as there even if it is empty; only the list of all
parameters may vanish. -/
def keepEmpty : Word → Word
  | [.value ['@'] .itself true] => [.value ['@'] .itself true]
  | [.value name (.element [.plain ['@']] .itself) true] =>
    [.value name (.element [.plain ['@']] .itself) true]
  | inside => .quoted [] :: inside

namespace Reader

/-- Reads up to the closing single quote. -/
def singleQuoted : Reader Octets := do
  go (← bound) []
where
  go : Nat → Octets → Reader Octets
    | 0, _ => fault (.unterminatedQuote '\'')
    | fuel + 1, taken => do
      match ← takeRaw? with
      | none => fault (.unterminatedQuote '\'')
      | some '\'' => return taken.reverse
      | some c => go fuel (c :: taken)

/-- Takes up to a number of digits of a base. -/
def takeDigits (base most : Nat) : Reader Octets := do
  let s ← get
  let digits := (s.rest.take most).takeWhile fun c => (digitValue? base c).isSome
  set { s with rest := s.rest.drop digits.length }
  return digits

/-- What a backslash and a letter stand for in quotes with escapes. -/
def escapeLetter? : Char → Option Char
  | 'a' => some '\x07'
  | 'b' => some '\x08'
  | 'e' | 'E' => some '\x1b'
  | 'f' => some '\x0c'
  | 'n' => some '\n'
  | 'r' => some '\r'
  | 't' => some '\t'
  | 'v' => some '\x0b'
  | c => if ['\\', '\'', '"', '?'].contains c then some c else none

/-- Reads an escape after its backslash. -/
def escape : Reader Octets := do
  match (← get).rest.head? with
  | none => return ['\\']
  | some c =>
    match escapeLetter? c with
    | some e => do
      let _ ← takeRaw?
      return [e]
    | none =>
      if (digitValue? 8 c).isSome then
        return [Char.ofNat ((readDigits 8 (← takeDigits 8 3)).1 % 256)]
      else if c == 'x' || c == 'u' || c == 'U' then do
        let _ ← takeRaw?
        let digits ← takeDigits 16 (if c == 'x' then 2 else if c == 'u' then 4 else 8)
        let n := (readDigits 16 digits).1
        return if digits.isEmpty then ['\\', c]
          else if c == 'x' then [Char.ofNat n] else ofText (Char.ofNat n).toString
      else if c == 'c' then do
        let _ ← takeRaw?
        match ← takeRaw? with
        | some d => return [Char.ofNat (d.toNat % 32)]
        | none => return ['\\', 'c']
      else return ['\\']

/-- Reads up to the closing single quote, escapes being carried out. -/
def escapeQuoted : Reader Octets := do
  go (← bound) []
where
  go : Nat → Octets → Reader Octets
    | 0, _ => fault (.unterminatedQuote '\'')
    | fuel + 1, taken => do
      match ← takeRaw? with
      | none => fault (.unterminatedQuote '\'')
      | some '\'' => return taken
      | some '\\' => go fuel (taken ++ (← escape))
      | some c => go fuel (taken ++ [c])

/-- Reads the script up to the closing backquote. A backslash there is for the character after it,
if that has a meaning. -/
def backquoted (quotes : Bool) : Reader Octets := do
  go (← bound) []
where
  go : Nat → Octets → Reader Octets
    | 0, _ => fault .openBackquote
    | fuel + 1, taken => do
      match ← take? with
      | none => fault .openBackquote
      | some '\x60' => return taken.reverse
      | some '\\' => do
        match ← takeRaw? with
        | none => fault .openBackquote
        | some d =>
          let escaped := ['\\', '\x60', '$'].contains d || (quotes && d == '"')
          go fuel (if escaped then d :: taken else d :: '\\' :: taken)
      | some c => go fuel (c :: taken)

/-- Reads a list of commands that stands in the place of its output. -/
def outputOf (nested : Nested) : Reader (List Command) := do
  let outer ← get
  set { outer with awaited := [], pushed := none }
  let body ← nested.list .closingAnywhere
  let inner ← get
  match inner.pushed with
  | some (.operator ")") =>
    set { inner with awaited := inner.awaited ++ outer.awaited, pushed := outer.pushed }
    return body
  | other => fault (.unexpected (other.getD .ending) (some ")"))

/-- Reads the script between backquotes. -/
def oldOutputOf (nested : Nested) (quotes : Bool) : Reader (List Command) := do
  let script ← backquoted quotes
  within script 1 (nested.list .closingAnywhere)

/-- Where the word stands that goes with what is made of a value. -/
def insideBraces (setting : Setting) (stops : List Char) : Setting :=
  if setting.quotes then .doubleBraces stops else .braces stops

/-- Reads what is made of a value, after the colon of a colon sign. -/
def slice (nested : Nested) : Reader Use := do
  let offset ← nested.word (.braces [':', '\x7d'])
  if (← get).rest.head? == some ':' then
    let _ ← takeRaw?
    let length ← nested.word (.braces ['\x7d'])
    let _ ← takeRaw?
    return .slice offset (some length)
  else
    let _ ← takeRaw?
    return .slice offset none

/-- Reads the replacement of a pattern, after the slash. -/
def replacement (nested : Nested) : Reader Use := do
  let place ← match (← get).rest.head? with
    | some c =>
      if ['/', '#', '%'].contains c then
        let _ ← takeRaw?
        pure (some c)
      else pure none
    | none => pure none
  let pattern ← nested.word (.braces ['/', '\x7d'])
  if (← take?) == some '/' then
    let instead ← nested.word (.braces ['\x7d'])
    let _ ← takeRaw?
    return .replace place pattern instead
  else return .replace place pattern []

/-- Reads the word that goes with what is made of a value, and the closing brace. -/
def restOfBraces (nested : Nested) (setting : Setting) : Reader Word := do
  let word ← nested.word (insideBraces setting ['\x7d'])
  let _ ← takeRaw?
  return word

/-- Reads a pattern and the closing brace. -/
def patternOfBraces (nested : Nested) : Reader Word := do
  let word ← nested.word (.braces ['\x7d'])
  let _ ← takeRaw?
  return word

/-- Reads what is made of a value, up to the closing brace. -/
def use (nested : Nested) (setting : Setting) : Reader Use := do
  let extended := (← get).dialect == .extended
  match ← take? with
  | none => return .broken
  | some '\x7d' => return .itself
  | some '-' => return .instead false (← restOfBraces nested setting)
  | some '=' => return .assign false (← restOfBraces nested setting)
  | some '?' => return .demand false (← restOfBraces nested setting)
  | some '+' => return .alternative false (← restOfBraces nested setting)
  | some '%' => do
    let longest ← takeIf '%'
    return .trim true longest (← patternOfBraces nested)
  | some '#' => do
    let longest ← takeIf '#'
    return .trim false longest (← patternOfBraces nested)
  | some ':' =>
    match ← peek? with
    | some '-' => takeRaw? *> return .instead true (← restOfBraces nested setting)
    | some '=' => takeRaw? *> return .assign true (← restOfBraces nested setting)
    | some '?' => takeRaw? *> return .demand true (← restOfBraces nested setting)
    | some '+' => takeRaw? *> return .alternative true (← restOfBraces nested setting)
    | some '\x7d' => takeRaw? *> return .broken
    | next =>
      if extended then slice nested
      else do
        -- A line end here is not counted.
        if next == some '\n' then modify fun s => { s with line := s.line - 1 }
        let _ ← restOfBraces nested setting
        return .broken
  | some c =>
    if extended && c == '/' then replacement nested
    else if extended && (c == '^' || c == ',') then do
      let all ← takeIf c
      return .recase (c == '^') all (← patternOfBraces nested)
    else do
      -- A line end here is not counted.
      if c == '\n' then modify fun s => { s with line := s.line - 1 }
      let _ ← restOfBraces nested setting
      return .broken

/-- Reads a name, a number or a special name after an opening brace. -/
def bracedName : Reader (Option Octets) := do
  match ← peek? with
  | some c =>
    if isNameStart c then return some (← takeWhile isNameChar)
    else if isDigit c then return some (← takeWhile isDigit)
    else if isSpecialName c then takeRaw? *> return some [c]
    else return none
  | none => return none

/-- Reads what is made of a value that may be an element of an array. -/
def elementOrUse (nested : Nested) (inner : Reader Use) : Reader Use := do
  if (← get).dialect == .extended && (← get).rest.head? == some '[' then
    let _ ← takeRaw?
    let index ← nested.word (.braces [']'])
    let _ ← takeRaw?
    return .element index (← inner)
  else inner

/-- Reads the rest of a value in braces, after a hash that may ask for its length. -/
def lengthOrHash (nested : Nested) (setting : Setting) (quoted : Bool) : Reader Piece := do
  match ← peek? with
  | some c =>
    if isNameStart c || isDigit c then
      let name ← if isDigit c then takeWhile isDigit else takeWhile isNameChar
      let length : Reader Use := do
        if ← takeIf '\x7d' then return .length
        else do
          let _ ← restOfBraces nested setting
          return .broken
      return .value name (← elementOrUse nested length) quoted
    else
      join
      match (← get).rest with
      | '\x7d' :: _ => return .value ['#'] (← use nested setting) quoted
      | d :: '\x7d' :: _ =>
        let _ ← takeRaw?
        if isSpecialName d then takeRaw? *> return .value [d] .length quoted
        else do
          let _ ← restOfBraces nested setting
          return .value [d] .broken quoted
      | _ => return .value ['#'] (← use nested setting) quoted
  | none => return .value ['#'] (← use nested setting) quoted

/-- Reads a value after the dollar sign and an opening brace. -/
def braced (nested : Nested) (setting : Setting) : Reader Piece := do
  let quoted := setting.quotes
  if ← takeIf '#' then lengthOrHash nested setting quoted
  else if (← get).dialect == .extended && (← peek?) == some '!' &&
      (((← get).rest.drop 1).head?.map isNameStart).getD false then
    let _ ← takeRaw?
    let name ← takeWhile isNameChar
    let inner : Reader Use := do
      let _ ← restOfBraces nested setting
      return .indirect
    return .value name (← elementOrUse nested inner) quoted
  else
    match ← bracedName with
    | some name => return .value name (← elementOrUse nested (use nested setting)) quoted
    | none => do
      let _ ← restOfBraces nested setting
      return .value [] .broken quoted

/-- Reads what follows a dollar sign. -/
def dollar (nested : Nested) (setting : Setting) : Reader Piece := do
  let quoted := setting.quotes
  let literal : Piece := if quoted then .quoted ['$'] else .plain ['$']
  match ← peek? with
  | none => return literal
  | some '(' => do
    let _ ← takeRaw?
    if ← takeIf '(' then return .sum (← nested.word .sum) quoted
    else return .output (← outputOf nested) quoted
  | some '\x7b' => takeRaw? *> braced nested setting
  | some '\'' =>
    if (← get).dialect == .extended && !quoted then takeRaw? *> return .quoted (← escapeQuoted)
    else return literal
  | some '"' =>
    if (← get).dialect == .extended && !quoted then return .plain [] else return literal
  | some c =>
    if isNameStart c then return .value (← takeWhile isNameChar) .itself quoted
    else if isSpecialName c then takeRaw? *> return .value [c] .itself quoted
    else return literal

/-- Characters that a backslash keeps from their meaning where text is quoted. -/
def escapable : Setting → Char → Bool
  | .document, c => ['\\', '\x60', '$'].contains c
  | .doubleBraces _, c => ['\\', '\x60', '$', '"', '\x7d'].contains c
  | _, c => ['\\', '\x60', '$', '"'].contains c

/-- Reads what follows a backslash. -/
def afterBackslash (setting : Setting) : Reader Piece := do
  match ← takeRaw? with
  | none => return .quoted ['\\']
  | some d =>
    return .quoted (if setting.quotes && !escapable setting d then ['\\', d] else [d])

/-- What the end of the script means for a part of a word. -/
def atEnd (setting : Setting) (word : Word) : Reader Word :=
  match setting with
  | .bare | .document => return word
  | .braces _ => fault .missingBrace
  | .double => fault (.unterminatedQuote '"')
  | .doubleBraces _ => fault (.unterminatedQuote '"')
  | .sum => fault .missingParentheses

/-- Does the character end the part of a word, itself not belonging to it? -/
def stopsAt (setting : Setting) (c : Char) : Bool :=
  match setting with
  | .bare => endsWord c
  | .braces stops | .doubleBraces stops => stops.contains c
  | .double => c == '"'
  | .document | .sum => false

/-- Reads a part of a word up to where it ends. The character that ends it is left, but for the signs
that close double quotes and sums. -/
def pieces (nested : Nested) (setting : Setting) : Reader Word := do
  go (← bound) 0 []
where
  go : Nat → Nat → List Piece → Reader Word
    | 0, _, done => atEnd setting (mergePieces done.reverse)
    | fuel + 1, depth, done => do
      match ← peek? with
      | none => atEnd setting (mergePieces done.reverse)
      | some c =>
        if stopsAt setting c then
          if setting == .double then
            let _ ← takeRaw?
            return mergePieces done.reverse
          else return mergePieces done.reverse
        else
          let _ ← takeRaw?
          match setting, c with
          | _, '$' => go fuel depth ((← dollar nested setting) :: done)
          | _, '\x60' =>
            let quotes := setting.quotes
            go fuel depth (.output (← oldOutputOf nested quotes) quotes :: done)
          | _, '\\' => go fuel depth ((← afterBackslash setting) :: done)
          | .bare, '\'' | .braces _, '\'' => go fuel depth (.quoted (← singleQuoted) :: done)
          | .bare, '"' | .braces _, '"' =>
            go fuel depth ((keepEmpty (← nested.word .double)).reverse ++ done)
          | .doubleBraces _, '"' => go fuel depth ((← nested.word .double).reverse ++ done)
          | .sum, '(' => go fuel (depth + 1) (.quoted [c] :: done)
          | .sum, ')' =>
            if depth == 0 then
              if ← takeIf ')' then return mergePieces done.reverse
              else go fuel depth (.quoted [c] :: done)
            else go fuel (depth - 1) (.quoted [c] :: done)
          | _, c => go fuel depth ((if setting.quotes then .quoted [c] else .plain [c]) :: done)

/-- Reads a word that is only a text, quoting taken away: the end of a document. -/
def terminator (nested : Nested) : Reader (Octets × Bool) := do
  go (← bound) [] false
where
  go : Nat → Octets → Bool → Reader (Octets × Bool)
    | 0, taken, quoted => return (taken, quoted)
    | fuel + 1, taken, quoted => do
      match ← peek? with
      | none => return (taken, quoted)
      | some c =>
        if endsWord c then return (taken, quoted)
        else
          let _ ← takeRaw?
          match c with
          | '\'' => go fuel (taken ++ (← singleQuoted)) true
          | '"' => go fuel (taken ++ textOf (← nested.word .double)) true
          | '\\' => go fuel (taken ++ (← takeRaw?).toList) true
          | c => go fuel (taken ++ [c]) quoted
  textOf (w : Word) : Octets :=
    w.flatMap fun
      | .plain s | .quoted s => s
      | _ => []

/-- Takes a line without its end, which is taken too. -/
def takeLine : Reader Octets := do
  let s ← get
  let line := s.rest.takeWhile (· != '\n')
  let after := s.rest.drop line.length
  set { s with rest := after.drop 1, line := if after.isEmpty then s.line else s.line + 1 }
  return line

/-- The lines of a document. Where lines are joined, what follows a join cannot end the document. -/
def documentLines (a : Awaited) : Reader Octets := do
  go (← bound) [] false
where
  go : Nat → Octets → Bool → Reader Octets
    | 0, taken, _ => return taken
    | fuel + 1, taken, continues => do
      if (← get).rest.isEmpty then return taken
      else
        let finished := (← get).rest.contains '\n'
        let line ← takeLine
        let line := if a.dropsTabs && !continues then line.dropWhile (· == '\t') else line
        if !continues && line == a.terminator then return taken
        else
          let joins := !a.verbatim && (line.reverse.takeWhile (· == '\\')).length % 2 == 1
          go fuel (taken ++ line ++ (if finished then ['\n'] else [])) joins

/-- Reads the documents that are awaited. -/
def readDocuments (nested : Nested) : Reader Unit := do
  let awaited := (← get).awaited
  modify fun s => { s with awaited := [] }
  for a in awaited do
    let start := (← get).line
    let text ← documentLines a
    let word ← if a.verbatim then pure [.quoted text]
      else do
        let ending := (← get).line
        let word ← within text start (nested.word .document)
        modify fun s => { s with line := ending }
        pure word
    modify fun s => { s with documents := (a.number, word) :: s.documents }

end Reader

end PlaybookLint.Shell
