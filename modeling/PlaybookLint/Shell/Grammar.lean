import PlaybookLint.Shell.WordReader

/-!
Reading commands. What a token is depends on where it stands: line ends may count for nothing, a word
may be a keyword, and a name may stand for another text.
-/

namespace PlaybookLint.Shell

/-- What is looked at when a token is read. -/
structure Look where
  newlines : Bool := false
  keywords : Bool := false
  aliases : Bool := false

/-- Where a command may begin, on the same line and on a later one. -/
def Look.command : Look := { keywords := true, aliases := true }

def Look.commandLater : Look := { newlines := true, keywords := true, aliases := true }

/-- Keywords and signs that close a list of commands. -/
def closesList : Token → Bool
  | .ending => true
  | .operator sign => [")", ";;", ";&", ";;&"].contains sign
  | .keyword name => ["\x7d", "do", "done", "elif", "else", "esac", "fi", "then"].contains name
  | _ => false

/-- The commands of the shell that a function may not be named after. -/
def specialCommands : List String :=
  [".", ":", "break", "continue", "eval", "exec", "exit", "export", "readonly", "return", "set",
    "shift", "times", "trap", "unset"]

namespace Reader

def isKeyword (dialect : Dialect) (s : Octets) : Bool :=
  let name := String.ofList s
  keywords.contains name || dialect == .extended && ["[[", "function"].contains name

/-- Takes an operator that begins with a character. -/
def operatorOf (c : Char) : Reader Token := do
  let extended := (← get).dialect == .extended
  match c with
  | '&' =>
    if ← takeIf '&' then return .operator "&&"
    else if extended && (← peek?) == some '>' then
      let _ ← takeRaw?
      return .redirect none (if ← takeIf '>' then "&>>" else "&>")
    else return .operator "&"
  | '|' =>
    if ← takeIf '|' then return .operator "||"
    else if extended then return .operator (if ← takeIf '&' then "|&" else "|")
    else return .operator "|"
  | ';' => do
    let twice ← takeIf ';'
    let goesOn ← if extended then takeIf '&' else pure false
    return .operator (if twice then (if goesOn then ";;&" else ";;") else if goesOn then ";&" else ";")
  | c => return .operator c.toString

/-- Takes the sign of a redirection after its first character. -/
def redirectSign (fd : Option Nat) (c : Char) : Reader Token := do
  let extended := (← get).dialect == .extended
  if c == '>' then
    if ← takeIf '>' then return .redirect fd ">>"
    else if ← takeIf '|' then return .redirect fd ">|"
    else if ← takeIf '&' then return .redirect fd ">&"
    else return .redirect fd ">"
  else if ← takeIf '<' then
    if ← takeIf '-' then return .redirect fd "<<-"
    else
      let thrice ← if extended then takeIf '<' else pure false
      return .redirect fd (if thrice then "<<<" else "<<")
  else if ← takeIf '&' then return .redirect fd "<&"
  else if ← takeIf '>' then return .redirect fd "<>"
  else return .redirect fd "<"

/-- Skips blanks and a comment. -/
def skipBlanks : Reader Unit := do
  let _ ← takeWhile isBlank
  if (← peek?) == some '#' then
    modify fun s => { s with rest := s.rest.dropWhile (· != '\n') }

/-- Reads a token that has not been put back, whatever stands around it. -/
def freshToken (nested : Nested) : Reader Token := do
  skipBlanks
  match ← peek? with
  | none => return .ending
  | some '\n' => takeRaw? *> return .newline
  | some c =>
    if ['&', '|', ';', '(', ')'].contains c then takeRaw? *> operatorOf c
    else
      let word ← pieces nested .bare
      match (← get).rest.head?, word with
      | some sign, [] =>
        if sign == '<' || sign == '>' then takeRaw? *> redirectSign none sign
        else return .word word
      | some sign, [.plain [d]] =>
        if (sign == '<' || sign == '>') && isDigit d then
          takeRaw? *> redirectSign (some (d.toNat - 48)) sign
        else return .word word
      | _, _ => return .word word

def rawToken (nested : Nested) : Reader Token := do
  match (← get).pushed with
  | some t => do
    modify fun s => { s with pushed := none }
    return t
  | none => freshToken nested

/-- What a name stands for, unless it is being replaced already. -/
def alias? (name : Octets) : Reader (Option Octets) := do
  let s ← get
  let active := s.replacing.filter fun (_, left) => left < s.rest.length
  set { s with replacing := active }
  if active.any (·.1 == name) then return none else return s.aliases.lookup name

/-- Has a text that stands for a name just been read to its end, and did a blank end it? Then the next
word may be such a name too. -/
def followsAlias : Reader Bool := do
  skipBlanks
  let s ← get
  let (passed, open') := s.blankEnds.partition (s.rest.length ≤ ·)
  set { s with blankEnds := open' }
  return !passed.isEmpty

/-- Reads a token, line ends and keywords being looked at as asked for. -/
def token (nested : Nested) (look : Look) : Reader Token := do
  go (← bound) look
where
  go : Nat → Look → Reader Token
    | 0, _ => return .ending
    | fuel + 1, look => do
      let look ← if (← get).pushed.isNone then do
          let follows ← followsAlias
          pure { look with aliases := look.aliases || follows }
        else pure look
      let t ← rawToken nested
      match t with
      | .newline =>
        if look.newlines then
          readDocuments nested
          go fuel look
        else return t
      | .word w =>
        match Word.bare? w with
        | none => return t
        | some s =>
          if look.keywords && isKeyword (← get).dialect s then return .keyword (String.ofList s)
          else if look.aliases then
            match ← alias? s with
            | none => return t
            | some text => do
              let ends : Bool := (text.getLast?.map isBlank).getD false
              modify fun i => { i with
                rest := text ++ i.rest
                replacing := (s, i.rest.length) :: i.replacing
                blankEnds := if ends then i.rest.length :: i.blankEnds else i.blankEnds }
              go fuel look
          else return t
      | t => return t

def unexpected {α : Type} (found : Token) (expected : Option String := none) : Reader α :=
  fault (.unexpected found expected)

/-- Reads a token that has to be a keyword. -/
def expectKeyword (nested : Nested) (look : Look) (name : String) : Reader Unit := do
  match ← token nested look with
  | .keyword found => if found != name then unexpected (.keyword found) (some name)
  | t => unexpected t (some name)

/-- Reads the word that tells where a redirection leads to. -/
def redirectTarget (nested : Nested) (line : Nat) (fd : Option Nat) (sign : String) :
    Reader Redirect := do
  if sign == "<<" || sign == "<<-" then
    skipBlanks
    match ← peek? with
    | none => unexpected .ending
    | some c =>
      if endsWord c then unexpected (← token nested {})
      else
        let (text, verbatim) ← terminator nested
        let s ← get
        let a : Awaited := ⟨s.nextDocument, text, verbatim, sign == "<<-"⟩
        set { s with awaited := s.awaited ++ [a], nextDocument := s.nextDocument + 1 }
        return .mk line fd (.document a.number) []
  else
    match ← token nested {} with
    | .word w =>
      let kind : RedirectKind := match sign with
        | "<" => .read
        | ">" => .write
        | ">|" => .clobber
        | ">>" => .append
        | "<>" => .readWrite
        | "<<<" => .inline
        | "&>" => .writeBoth
        | "&>>" => .appendBoth
        | _ => .duplicate
      return .mk line (fd.orElse fun _ => if sign == ">&" then some 1 else if sign == "<&" then some 0 else none)
        kind w
    | t => unexpected t

/-- Reads the redirections that follow a command. -/
def redirects (nested : Nested) : Reader (List Redirect) := do
  go (← bound) []
where
  go : Nat → List Redirect → Reader (List Redirect)
    | 0, done => return done.reverse
    | fuel + 1, done => do
      match ← token nested Look.command with
      | .redirect fd sign => do
        let line := (← get).line
        go fuel ((← redirectTarget nested line fd sign) :: done)
      | t => do
        pushBack t
        return done.reverse

/-- The name that a text assigns to, whether it adds to it, and the text after the equals sign. -/
def assignedName? (extended : Bool) (s : Octets) : Option (Octets × Bool × Octets) :=
  let name := s.takeWhile isNameChar
  if !isName name then none
  else
    match s.drop name.length with
    | '=' :: value => some (name, false, value)
    | '+' :: '=' :: value => if extended then some (name, true, value) else none
    | _ => none

/-- The word without its first text, if nothing is left of that. -/
def withFirst (s : Octets) (rest : Word) : Word := if s.isEmpty then rest else .plain s :: rest

/-- Splits a word after the bracket and equals sign that end the index of an element. -/
def splitIndex : Word → Option (Word × Bool × Word)
  | [] => none
  | .plain s :: rest =>
    let inside := s.takeWhile (· != ']')
    match s.drop inside.length with
    | ']' :: '=' :: value => some (withFirst inside [], false, withFirst value rest)
    | ']' :: '+' :: '=' :: value => some (withFirst inside [], true, withFirst value rest)
    | _ :: _ => none
    | [] => (splitIndex rest).map fun (index, adds, value) => (withFirst s index, adds, value)
  | piece :: rest =>
    (splitIndex rest).map fun (index, adds, value) => (piece :: index, adds, value)

/-- The assignment that a word is. -/
def assignment? (extended : Bool) : Word → Option Assignment
  | .plain s :: rest =>
    match assignedName? extended s with
    | some (name, adds, value) => some (.scalar name adds (withFirst value rest))
    | none =>
      let name := s.takeWhile isNameChar
      match s.drop name.length with
      | '[' :: after =>
        if extended && isName name then
          (splitIndex (withFirst after rest)).map fun (index, adds, value) =>
            .element name index adds value
        else none
      | _ => none
  | _ => none

/-- Reads the items of an array up to the closing parenthesis. -/
def arrayItems (nested : Nested) : Reader (List (Option Word × Word)) := do
  go (← bound) []
where
  go : Nat → List (Option Word × Word) → Reader (List (Option Word × Word))
    | 0, done => return done.reverse
    | fuel + 1, done => do
      match ← token nested { newlines := true } with
      | .word w =>
        let item : Option Word × Word := match w with
          | .plain ('[' :: s) :: rest =>
            match splitIndex (withFirst s rest) with
            | some (index, _, value) => (some index, value)
            | none => (none, w)
          | _ => (none, w)
        go fuel (item :: done)
      | .operator ")" => return done.reverse
      | t => unexpected t

/-- Is the text the name of a function? The larger shell lets nearly every word be one. -/
def isFunctionName (dialect : Dialect) (s : Octets) : Bool :=
  match dialect with
  | .plain => isName s && !("local" :: specialCommands).contains (String.ofList s)
  | .extended => !s.isEmpty

/-- Reads the body of a function after its name and parentheses. -/
def definition (nested : Nested) (name : Octets) : Reader Command := do
  if !isFunctionName (← get).dialect name then fault (.badFunctionName name)
  else
    let t ← token nested Look.commandLater
    pushBack t
    return .define name (← nested.command)

/-- What has been read of a simple command, the latest first. -/
structure Draft where
  assignments : List Assignment := []
  words : List Word := []
  redirects : List Redirect := []

/-- The words that take assignments as their own words. -/
def takesAssignments : List String := ["declare", "typeset", "local", "export", "readonly"]

/-- Is the command one whose words may assign arrays? -/
def Draft.assigns (d : Draft) : Bool :=
  match (d.words.getLast?.bind Word.bare?).map String.ofList with
  | none => d.words.isEmpty
  | some name => takesAssignments.contains name

/-- Reads a simple command whose first token has been put back. -/
def simple (nested : Nested) : Reader Command := do
  go (← get).line (← bound) {}
where
  finish (line : Nat) (d : Draft) : Command :=
    .simple line d.assignments.reverse d.words.reverse d.redirects.reverse
  go (line : Nat) : Nat → Draft → Reader Command
    | 0, d => return finish line d
    | fuel + 1, d => do
      match ← token nested { aliases := d.words.isEmpty } with
      | .word w => do
        let extended := (← get).dialect == .extended
        match if d.words.isEmpty then assignment? extended w else none with
        | some (.scalar name adds []) =>
          if extended && (← get).rest.head? == some '(' then
            let _ ← takeRaw?
            let items ← arrayItems nested
            go line fuel { d with assignments := .array name adds items :: d.assignments }
          else go line fuel { d with assignments := .scalar name adds [] :: d.assignments }
        | some a => go line fuel { d with assignments := a :: d.assignments }
        | none =>
          match if extended && d.assigns then assignment? true w else none with
          | some (.scalar name adds []) =>
            if (← get).rest.head? == some '(' then
              let _ ← takeRaw?
              let items ← arrayItems nested
              go line fuel
                { d with assignments := .array name adds items :: d.assignments
                         words := [.plain name] :: d.words }
            else go line fuel { d with words := w :: d.words }
          | _ => go line fuel { d with words := w :: d.words }
      | .redirect fd sign => do
        let at' := (← get).line
        let r ← redirectTarget nested at' fd sign
        go line fuel { d with redirects := r :: d.redirects }
      | .operator "(" => do
        match d.assignments, d.words, d.redirects with
        | [], [w], [] =>
          match ← token nested {} with
          | .operator ")" => definition nested ((Word.bare? w).getD [])
          | t => unexpected t (some ")")
        | _, _, _ => do
          pushBack (.operator "(")
          return finish line d
      | t => do
        pushBack t
        return finish line d

/-- Reads the arms of a branch after its first test. -/
def branchRest (nested : Nested) : Reader (List Command × List Command) := do
  expectKeyword nested {} "then"
  let consequence ← nested.list .closing
  go (← bound) consequence
where
  go : Nat → List Command → Reader (List Command × List Command)
    | 0, consequence => return (consequence, [])
    | fuel + 1, consequence => do
      match ← token nested {} with
      | .keyword "elif" => do
        let line := (← get).line
        let test ← nested.list .closing
        expectKeyword nested {} "then"
        let inner ← nested.list .closing
        let (inner, otherwise) ← go fuel inner
        let _ := line
        return (consequence, [.branch test inner otherwise])
      | .keyword "else" => return (consequence, ← nested.list .closing)
      | t => do
        pushBack t
        return (consequence, [])

/-- Reads the words of a loop up to the end of the line or a semicolon. -/
def loopWords (nested : Nested) : Reader (List Word) := do
  go (← bound) []
where
  go : Nat → List Word → Reader (List Word)
    | 0, done => return done.reverse
    | fuel + 1, done => do
      match ← token nested {} with
      | .word w => go fuel (w :: done)
      | .newline => do
        readDocuments nested
        return done.reverse
      | .operator ";" => return done.reverse
      | t => unexpected t

/-- Reads the body of a loop with its keywords. -/
def loopBody (nested : Nested) : Reader (List Command) := do
  match ← token nested Look.commandLater with
  | .keyword "do" => do
    let body ← nested.list .closing
    expectKeyword nested {} "done"
    return body
  | .keyword "\x7b" => do
    if (← get).dialect == .extended then
      let body ← nested.list .closing
      expectKeyword nested {} "\x7d"
      return body
    else unexpected (.keyword "\x7b") (some "do")
  | t => unexpected t (some "do")

/-- Reads three expressions between double parentheses. -/
def countedLoop (nested : Nested) (line : Nat) : Reader Command := do
  let header ← nested.word .sum
  let (start, rest) := cut header
  let (test, step) := cut rest
  match ← token nested Look.commandLater with
  | .operator ";" => pure ()
  | t => pushBack t
  return .counted line start test step (← loopBody nested)
where
  cut : Word → Word × Word
    | [] => ([], [])
    | .quoted s :: rest =>
      let before := s.takeWhile (· != ';')
      match s.drop before.length with
      | [] =>
        let (first, second) := cut rest
        (.quoted before :: first, second)
      | _ :: after => ([.quoted before], .quoted after :: rest)
    | piece :: rest =>
      let (first, second) := cut rest
      (piece :: first, second)

/-- Reads a loop over words after its keyword. -/
def eachLoop (nested : Nested) (line : Nat) : Reader Command := do
  skipBlanks
  join
  match (← get).dialect, (← get).rest with
  | .extended, '(' :: '(' :: rest => do
    modify fun s => { s with rest }
    countedLoop nested line
  | dialect, _ => do
    match ← token nested {} with
    | .word w =>
      let name := (Word.bare? w).getD []
      if dialect == .plain && !isName name then fault (.badLoopVariable name)
      else
        match ← token nested Look.commandLater with
        | .keyword "in" => do
          let words ← loopWords nested
          return .each line name (some words) (← loopBody nested)
        | .operator ";" => return .each line name none (← loopBody nested)
        | t => do
          pushBack t
          return .each line name none (← loopBody nested)
    | _ => fault (.badLoopVariable [])

/-- Reads the patterns of an arm up to the closing parenthesis. -/
def armPatterns (nested : Nested) (first : Token) : Reader (List Word) := do
  go (← bound) first []
where
  go : Nat → Token → List Word → Reader (List Word)
    | 0, _, done => return done.reverse
    | fuel + 1, t, done => do
      let w : Word ← match t with
        | .word w => pure w
        | .keyword name => pure [.plain name.toList]
        | t => unexpected t (some ")")
      match ← token nested {} with
      | .operator "|" => do
        let t ← token nested {}
        go fuel t (w :: done)
      | .operator ")" => return (w :: done).reverse
      | t => unexpected t (some ")")

/-- Reads the arms of a choice up to its last keyword. -/
def choiceArms (nested : Nested) : Reader (List (List Word × List Command × Continuation)) := do
  go (← bound) []
where
  go : Nat → List (List Word × List Command × Continuation) →
      Reader (List (List Word × List Command × Continuation))
    | 0, done => return done.reverse
    | fuel + 1, done => do
      match ← token nested { newlines := true, keywords := true } with
      | .keyword "esac" => return done.reverse
      | first => do
        let first ← match first with
          | .operator "(" => token nested {}
          | t => pure t
        let patterns ← armPatterns nested first
        let body ← nested.list .closingAnywhere
        match ← token nested { newlines := true, keywords := true } with
        | .keyword "esac" => return ((patterns, body, .stop) :: done).reverse
        | .operator ";;" => go fuel ((patterns, body, .stop) :: done)
        | .operator ";&" => go fuel ((patterns, body, .fallThrough) :: done)
        | .operator ";;&" => go fuel ((patterns, body, .tryNext) :: done)
        | t => unexpected t (some ";;")

/-- Reads a choice after its keyword. -/
def choice (nested : Nested) (line : Nat) : Reader Command := do
  match ← token nested {} with
  | .word subject => do
    expectKeyword nested Look.commandLater "in"
    return .choice line subject (← choiceArms nested)
  | t => unexpected t (some "word")

/-- Reads a condition in double brackets as long as there is one more to join. -/
def condition (nested : Nested) : Reader Condition := do
  disjunction (← bound)
where
  /-- A part of a condition may be a word with signs that end words elsewhere. -/
  next : Reader Token := token nested { newlines := true }
  primary : Nat → Reader Condition
    | 0 => fault .tooDeep
    | fuel + 1 => do
      match ← next with
      | .operator "(" => do
        let inner ← disjunction fuel
        match ← next with
        | .operator ")" => return inner
        | t => unexpected t (some ")")
      | .word w =>
        match Word.bare? w with
        | some ['!'] => return .negated (← primary fuel)
        | bare =>
          match bare with
          | some ['-', c] => do
            match ← next with
            | .word operand =>
              if (Word.bare? operand) == some "]]".toList then
                pushBack (.word operand)
                return .unary "-n".toList w
              else return .unary ['-', c] operand
            | t => do
              pushBack t
              return .unary "-n".toList w
          | _ => binary w
      | t => unexpected t
  binary (w : Word) : Reader Condition := do
    match ← next with
    | .redirect none sign =>
      match ← next with
      | .word second => return .binary w sign.toList second
      | t => unexpected t
    | .word sign =>
      match Word.bare? sign with
      | some s =>
        if s == "]]".toList then
          pushBack (.word sign)
          return .unary "-n".toList w
        else if s == "=~".toList then return .binary w s (← expressionWord)
        else
          match ← next with
          | .word second => return .binary w s second
          | t => unexpected t
      | none => unexpected (.word sign)
    | t => do
      pushBack t
      return .unary "-n".toList w
  /-- The word of an expression may hold parentheses and bars. -/
  expressionWord : Reader Word := do
    let _ ← takeWhile isBlank
    signs (← bound) 0 []
  signs : Nat → Nat → Word → Reader Word
    | 0, _, done => return mergePieces done
    | fuel + 1, depth, done => do
      let part ← pieces nested .bare
      match ← peek? with
      | some c =>
        if c == '(' || c == '|' || (c == ')' && depth != 0) || (depth != 0 && isBlank c) then
          let _ ← takeRaw?
          let depth := if c == '(' then depth + 1 else if c == ')' then depth - 1 else depth
          signs fuel depth (done ++ part ++ [.plain [c]])
        else return mergePieces (done ++ part)
      | none => return mergePieces (done ++ part)
  conjunction : Nat → Reader Condition
    | 0 => fault .tooDeep
    | fuel + 1 => do
      let first ← primary fuel
      match ← next with
      | .operator "&&" => return .both first (← conjunction fuel)
      | t => do
        pushBack t
        return first
  disjunction : Nat → Reader Condition
    | 0 => fault .tooDeep
    | fuel + 1 => do
      let first ← conjunction fuel
      match ← next with
      | .operator "||" => return .either first (← disjunction fuel)
      | t => do
        pushBack t
        return first

/-- Reads a condition and the brackets that close it. -/
def bracketed (nested : Nested) (line : Nat) : Reader Command := do
  let c ← condition nested
  match ← token nested { newlines := true } with
  | .word w => if Word.bare? w == some "]]".toList then return .condition line c else unexpected (.word w)
  | t => unexpected t

/-- Reads a function that is announced by a keyword. -/
def announcedFunction (nested : Nested) : Reader Command := do
  match ← token nested {} with
  | .word w => do
    match ← token nested {} with
    | .operator "(" => do
      match ← token nested {} with
      | .operator ")" => definition nested ((Word.bare? w).getD [])
      | t => unexpected t (some ")")
    | t => do
      pushBack t
      definition nested ((Word.bare? w).getD [])
  | t => unexpected t

/-- A compound command with the redirections that follow it. -/
def withRedirects (nested : Nested) (line : Nat) (c : Command) : Reader Command := do
  match ← redirects nested with
  | [] => return c
  | rs => return .redirected line c rs

/-- Reads a command; its first token may have been put back. -/
def command (nested : Nested) : Reader Command := do
  let line := (← get).line
  match ← token nested {} with
  | .keyword "if" => do
    let test ← nested.list .closing
    let (consequence, otherwise) ← branchRest nested
    expectKeyword nested {} "fi"
    withRedirects nested line (.branch test consequence otherwise)
  | .keyword "while" => do
    let test ← nested.list .closing
    withRedirects nested line (.loop false test (← plainBody))
  | .keyword "until" => do
    let test ← nested.list .closing
    withRedirects nested line (.loop true test (← plainBody))
  | .keyword "for" => do
    let c ← eachLoop nested line
    withRedirects nested line c
  | .keyword "case" => do
    let c ← choice nested line
    withRedirects nested line c
  | .keyword "\x7b" => do
    let body ← nested.list .closing
    expectKeyword nested {} "\x7d"
    withRedirects nested line (.group body)
  | .keyword "[[" => do
    let c ← bracketed nested line
    withRedirects nested line c
  | .keyword "function" => announcedFunction nested
  | .operator "(" => do
    if (← get).dialect == .extended && (← get).rest.head? == some '(' then
      let _ ← takeRaw?
      let c : Command := .arithmetic line (← nested.word .sum)
      withRedirects nested line c
    else
      let body ← nested.list .closing
      match ← token nested {} with
      | .operator ")" => withRedirects nested line (.subshell line body)
      | t => unexpected t (some ")")
  | .word w => do
    pushBack (.word w)
    simple nested
  | .redirect fd sign => do
    pushBack (.redirect fd sign)
    simple nested
  | t => unexpected t
where
  plainBody : Reader (List Command) := do
    expectKeyword nested {} "do"
    let body ← nested.list .closing
    expectKeyword nested {} "done"
    return body

/-- Joins the outputs of a command. -/
def bothOutputs (line : Nat) (c : Command) : Command :=
  .redirected line c [.mk line (some 2) .duplicate [.plain ['1']]]

/-- Reads commands with bars between them. -/
def pipeline (nested : Nested) : Reader Command := do
  let negated ← negations (← bound)
  let first ← command nested
  let parts ← go (← bound) [first]
  let c : Command := match parts with
    | [c] => c
    | parts => .pipeline parts
  return if negated then .negated c else c
where
  /-- The plain shell negates once. -/
  negations : Nat → Reader Bool
    | 0 => return false
    | fuel + 1 => do
      match ← token nested {} with
      | .keyword "!" => do
        let t ← token nested Look.command
        pushBack t
        if (← get).dialect == .extended then return !(← negations fuel) else return true
      | t => do
        pushBack t
        return false
  go : Nat → List Command → Reader (List Command)
    | 0, parts => return parts.reverse
    | fuel + 1, parts => do
      let line := (← get).line
      match ← token nested {} with
      | .operator "|" => next fuel parts
      | .operator "|&" =>
        match parts with
        | c :: rest => next fuel (bothOutputs line c :: rest)
        | [] => return []
      | t => do
        pushBack t
        return parts.reverse
  next (fuel : Nat) (parts : List Command) : Reader (List Command) := do
    let t ← token nested Look.commandLater
    pushBack t
    go fuel ((← command nested) :: parts)

/-- Reads pipelines with signs between them that look at how they ended. -/
def andOr (nested : Nested) : Reader Command := do
  let first ← pipeline nested
  go (← bound) first
where
  go : Nat → Command → Reader Command
    | 0, c => return c
    | fuel + 1, c => do
      match ← token nested {} with
      | .operator "&&" => do
        let t ← token nested Look.commandLater
        pushBack t
        go fuel (.both c (← pipeline nested))
      | .operator "||" => do
        let t ← token nested Look.commandLater
        pushBack t
        go fuel (.either c (← pipeline nested))
      | t => do
        pushBack t
        return c

/-- Reads a list of commands up to where it ends. What ends it is put back, but for the end of a
line. -/
def list (nested : Nested) (ending : ListEnd) : Reader (List Command) := do
  go (← bound) (ending == .closingAnywhere) []
where
  look : Look := if ending == .line then Look.command else Look.commandLater
  go : Nat → Bool → List Command → Reader (List Command)
    | 0, _, done => return done.reverse
    | fuel + 1, mayEnd, done => do
      match ← token nested look with
      | .newline => do
        readDocuments nested
        return done.reverse
      | .ending => do
        readDocuments nested
        pushBack .ending
        return done.reverse
      | t =>
        pushBack t
        if mayEnd && closesList t then return done.reverse
        else
          let c ← andOr nested
          let after ← token nested {}
          let c : Command := match after with
            | .operator "&" => .background c
            | _ => c
          let done := c :: done
          let mayEnd := ending != .line
          match after with
          | .ending => do
            readDocuments nested
            pushBack .ending
            return done.reverse
          | .newline => do
            pushBack .newline
            go fuel mayEnd done
          | .operator "&" | .operator ";" => go fuel mayEnd done
          | t => do
            if ending == .line then unexpected t
            else
              pushBack t
              return done.reverse

end Reader

mutual

/-- Readers of nested lists, words and commands, as deep as asked for. -/
def listWithin : Nat → ListEnd → Reader (List Command)
  | 0, _ => Reader.fault .tooDeep
  | depth + 1, ending =>
    Reader.list ⟨fun e => listWithin depth e, fun s => wordWithin depth s, fun s => commandWithin depth s⟩
      ending

def wordWithin : Nat → Setting → Reader Word
  | 0, _ => Reader.fault .tooDeep
  | depth + 1, setting =>
    Reader.pieces ⟨fun e => listWithin depth e, fun s => wordWithin depth s, fun s => commandWithin depth s⟩
      setting

def commandWithin : Nat → Reader Command
  | 0 => Reader.fault .tooDeep
  | depth + 1 =>
    Reader.command ⟨fun e => listWithin depth e, fun s => wordWithin depth s, fun s => commandWithin depth s⟩

end

/-- How deep commands may be nested. -/
def nestingLimit : Nat := 400

/-- Reads the commands of one line, as many lines as they take. Nothing is left at the end of the
script. -/
def readUnit : Reader (Option (List Command)) := do
  match (← get).pushed, (← get).rest with
  | some .ending, _ => return none
  | _, [] => return none
  | _, _ => return some (← listWithin nestingLimit .line)

end PlaybookLint.Shell
