import PlaybookLint.Pattern.Escape

/-!
The grammar of search patterns. Alternatives, items, repetitions, sets and groups are read from left
to right; the first rule broken, in reading order, is the one reported. Each step takes a token, so
the fuel, which the length of the text bounds, never runs out; what may run out, for groups inside
groups, is the room for nested calls.
-/

namespace PlaybookLint.Pattern

/-- Repetition counts stop short of this number. -/
def countBound : Nat := 4294967295

/-- Numbers of groups stop short of this number. -/
def groupBound : Nat := 1073741823

/-- Blanks that a verbose pattern skips. -/
def isSkipped (c : Char) : Bool := c == ' ' || (9 ≤ c.toNat && c.toNat ≤ 13)

namespace Reading

/-! ### Sets -/

/-- Reads one end of a range, or a single element, whose first token has been taken. -/
def setElement : Token → Reading SetItem
  | .plain c => return .code c.toNat
  | .escape c => setEscape c
  | .loneBackslash => return .code 92

/-- The range between two elements, if they are characters in order. -/
def rangeOf? : SetItem → SetItem → Option SetItem
  | .code first, .code last => if last < first then none else some (.range first last)
  | _, _ => none

/-- Reads the elements of a set up to its closing bracket; `here` is where the set began. -/
def setElements (here : Nat) : Nat → List SetItem → Reading (List SetItem)
  | 0, items => return items
  | fuel + 1, items => do
    let unterminated : Reading (List SetItem) := do
      refuse "unterminated character set" ((← get).position - here)
    match ← take with
    | none => unterminated
    | some first =>
      if first == .plain ']' && !items.isEmpty then return items
      let left ← setElement first
      if ← accept '-' then
        match ← take with
        | none => unterminated
        | some last =>
          if last == .plain ']' then return items ++ [left, .code 45]
          let right ← setElement last
          match rangeOf? left right with
          | some range => setElements here fuel (items ++ [range])
          | none =>
            refuse s!"bad character range {String.ofList first.chars}-{String.ofList last.chars}"
              (first.size + 1 + last.size)
      else setElements here fuel (items ++ [left])

/-- Reads a set whose opening bracket has been taken. -/
def bracketed : Reading Item := do
  let here := (← get).position - 1
  let negated ← accept '^'
  let items ← setElements here ((← get).tokens.length + 1) []
  match items.eraseDups with
  | [.code n] => return if negated then .notLiteral n else .literal n
  | items => return .set negated items

/-! ### Repetitions -/

/-- The number that a repetition count stands for. -/
def countOf (digits : List Char) : Reading Nat := do
  match Text.readNumber digits with
  | .error refusal => throw (.tooManyDigits refusal)
  | .ok count => if countBound ≤ count then throw (.excess .repetition) else return count

/-- Reads the counts between braces, the opening brace having been taken. Nothing is taken and none
is returned where the brace stands for itself. -/
def counts? : Reading (Option (Nat × Option Nat)) := do
  let before ← get
  if (← peek) == some (.plain '\x7d') then return none
  let low ← takeAll Char.isDigit
  let high ← if ← accept ',' then takeAll Char.isDigit else pure low
  if !(← accept '\x7d') then
    set before
    return none
  let least ← if low.isEmpty then pure 0 else countOf low
  if high.isEmpty then return some (least, none)
  let most ← countOf high
  if most < least then
    refuse "min repeat greater than max repeat" ((← get).position - before.position)
  return some (least, some most)

/-- Is the item a place that takes no character? -/
def isEdge : Item → Bool
  | .edge _ => true
  | _ => false

def isRepeated : Item → Bool
  | .repeated _ _ _ _ => true
  | _ => false

/-- Repeats the item read last; `start` is where the repetition sign stands. -/
def repeatLast (start least : Nat) (most : Option Nat) (read : List Item) : Reading (List Item) := do
  let position := (← get).position
  match read with
  | [] => refuse "nothing to repeat" (position - start)
  | item :: earlier =>
    if isEdge item then refuse "nothing to repeat" (position - start)
    if isRepeated item then refuse "multiple repeat" (position - start)
    let body := item.unpacked
    if ← accept '?' then return .repeated .lazy least most body :: earlier
    else if ← accept '+' then return .repeated .possessive least most body :: earlier
    else return .repeated .greedy least most body :: earlier

/-! ### Flags of a group -/

/-- Reads the flags that are turned on, up to a closing parenthesis, a minus or a colon, and gives
that character as well. -/
def flagsOn : Nat → Char → Flags → Reading (Flags × Char)
  | 0, c, added => return (added, c)
  | fuel + 1, c, added => do
    match Flag.ofChar? c with
    | none => return (added, c)
    | some flag =>
      if flag == .locale then
        refuse "bad inline flags: cannot use 'L' flag with a str pattern" 0
      let added := added.insert flag
      if flag.choosesKind && added.ascii && added.unicode then
        refuse "bad inline flags: flags 'a', 'u' and 'L' are incompatible" 0
      match ← take with
      | none => refuse "missing -, : or )" 0
      | some (.plain d) =>
        if d == ')' || d == '-' || d == ':' then return (added, d)
        if (Flag.ofChar? d).isNone then
          refuse (if Text.isLetter d then "unknown flag"
            else "missing -, : or )") 1
        flagsOn fuel d added
      | some t => refuse "missing -, : or )" t.size

/-- Reads the flags that are turned off, up to a colon. -/
def flagsOff : Nat → Char → Flags → Reading Flags
  | 0, _, removed => return removed
  | fuel + 1, c, removed => do
    match Flag.ofChar? c with
    | none => return removed
    | some flag =>
      if flag.choosesKind then
        refuse "bad inline flags: cannot turn off flags 'a', 'u' and 'L'" 0
      let removed := removed.insert flag
      match ← take with
      | none => refuse "missing :" 0
      | some (.plain d) =>
        if d == ':' then return removed
        if (Flag.ofChar? d).isNone then
          refuse (if Text.isLetter d then "unknown flag"
            else "missing :") 1
        flagsOff fuel d removed
      | some t => refuse "missing :" t.size

/-- Reads the flags of a group from the character `c` on. Flags for the whole pattern are added to
it, and none is returned; otherwise those turned on and off inside the group. -/
def groupFlags (c : Char) : Reading (Option (Flags × Flags)) := do
  let fuel := (← get).tokens.length + 1
  let (added, last) ← if c == '-' then pure ({}, '-') else flagsOn fuel c {}
  if last == ')' then
    modify fun s => { s with flags := s.flags.union added }
    return none
  if added.template then refuse "bad inline flags: cannot turn on global flag" 1
  let removed ←
    if last == '-' then
      match ← take with
      | none => refuse "missing flag" 0
      | some (.plain d) =>
        if (Flag.ofChar? d).isNone then
          refuse (if Text.isLetter d then "unknown flag"
            else "missing flag") 1
        flagsOff fuel d {}
      | some t => refuse "missing flag" t.size
    else pure {}
  if removed.template then refuse "bad inline flags: cannot turn off global flag" 1
  if added.meets removed then refuse "bad inline flags: flag turned on and off" 1
  return some (added, removed)

/-! ### Groups that are asked about -/

/-- Digits without the underscores between them; an underscore stands between two digits. -/
def joinedDigits? : List Char → Option (List Char)
  | [] => some []
  | '_' :: _ => none
  | [_, '_'] => none
  | c :: '_' :: d :: rest => if d == '_' then none else (joinedDigits? (d :: rest)).map (c :: ·)
  | c :: rest => (joinedDigits? rest).map (c :: ·)

/-- The number that a condition names its group by: blanks around it, a sign and underscores between
digits are allowed, and of the numbers below zero only zero itself is written with a minus sign. -/
def conditionNumber? (text : List Char) : Option Nat :=
  let body := Text.trimEnd (Text.trimStart text)
  let (negative, digits) := match body with
    | '+' :: rest => (false, rest)
    | '-' :: rest => (true, rest)
    | other => (false, other)
  match joinedDigits? digits with
  | none => none
  | some plain =>
    if plain.isEmpty || !plain.all Text.isDecimalDigit then none
    else
      match (Text.readNumber plain).toOption with
      | some number => if negative && number != 0 then none else some number
      | none => none

/-- Reads the name or the number of the group that a condition asks about. -/
def conditionGroup : Reading Nat := do
  let text ← takeUntil ')' "group name"
  let back := text.length + 1
  let shown := Text.quoted (String.ofList text)
  if Text.isIdentifier text then
    match (← get).names.lookup (String.ofList text) with
    | some index => return index
    | none => refuse s!"unknown group name {shown}" back
  else
    match conditionNumber? text with
    | none => refuse s!"bad character in group name {shown}" back
    | some index =>
      if index == 0 then refuse "bad group number" back
      if groupBound ≤ index then refuse s!"invalid group reference {index}" back
      let s ← get
      if (s.asked.lookup index).isNone then
        set { s with asked := s.asked ++ [(index, s.position - back)] }
      return index

/-- Reads a reference to a group by name. -/
def namedReference : Reading Item := do
  let name ← takeUntil ')' "group name"
  checkName name
  match (← get).names.lookup (String.ofList name) with
  | none => refuse s!"unknown group name {Text.quoted (String.ofList name)}" (name.length + 1)
  | some index =>
    match ← closedWidth? index with
    | none => refuse "cannot refer to an open group" (name.length + 1)
    | some width =>
      checkLookBehind index
      return .recall index width

/-- What the characters after an opening parenthesis say about the group. -/
inductive Opening where
  | plain (name : Option String)
  | uncaptured (added removed : Flags)
  | atomic
  | look (ahead positive : Bool)
  | condition
  | done (item : Option Item)
  | wholeFlags

/-- Reads what follows an opening parenthesis up to where the contents of the group begin; `start`
is where the parenthesis stands. -/
def opening (start : Nat) : Reading Opening := do
  if !(← accept '?') then return .plain none
  match ← take with
  | none => refuse "unexpected end of pattern" 0
  | some (.plain 'P') =>
    if ← accept '<' then
      let name ← takeUntil '>' "group name"
      checkName name
      return .plain (some (String.ofList name))
    else if ← accept '=' then return .done (some (← namedReference))
    else
      match ← take with
      | none => refuse "unexpected end of pattern" 0
      | some t => refuse s!"unknown extension ?P{String.ofList t.chars}" (t.size + 2)
  | some (.plain ':') => return .uncaptured {} {}
  | some (.plain '#') =>
    if ← skipPast ')' ((← get).tokens.length + 1) then return .done none
    else refuse "missing ), unterminated comment" ((← get).position - start)
  | some (.plain '=') => return .look true true
  | some (.plain '!') => return .look true false
  | some (.plain '<') =>
    match ← take with
    | none => refuse "unexpected end of pattern" 0
    | some (.plain '=') => return .look false true
    | some (.plain '!') => return .look false false
    | some t => refuse s!"unknown extension ?<{String.ofList t.chars}" (t.size + 2)
  | some (.plain '(') => return .condition
  | some (.plain '>') => return .atomic
  | some (.plain c) =>
    if c == '-' || (Flag.ofChar? c).isSome then
      match ← groupFlags c with
      | none => return .wholeFlags
      | some (added, removed) => return .uncaptured added removed
    else refuse s!"unknown extension ?{c}" 2
  | some t => refuse s!"unknown extension ?{String.ofList t.chars}" (t.size + 1)

/-- Takes the closing parenthesis of the group that began at `start`. -/
def closing (start : Nat) : Reading Unit := do
  if !(← accept ')') then
    refuse "missing ), unterminated subpattern" ((← get).position - start)

/-- Items that were read, from the reverse order in which they are held, plain groups unpacked. -/
def settledItems (read : List Item) : List Item := read.reverse.flatMap Item.unpacked

mutual

/-- Reads alternatives up to a closing parenthesis or the end. `outermost` is set outside all groups,
where flags for the whole pattern may change whether it is verbose. -/
def alternatives : Nat → Nat → Bool → Bool → List (List Item) → Reading (List Item)
  | 0, _, _, _, options => return Item.ofOptions options
  | fuel + 1, room, verbose, outermost, options => do
    let items ← deeper room fun room =>
      sequence fuel room verbose (outermost && options.isEmpty) []
    if ← accept '|' then
      let whole := (← get).flags.verbose
      let verbose := if outermost then whole else verbose
      alternatives fuel room verbose outermost (options ++ [items])
    else return Item.ofOptions (options ++ [items])

/-- Reads items up to a bar, a closing parenthesis or the end; `read` holds them in reverse order.
`first` is set in the first alternative outside all groups. -/
def sequence : Nat → Nat → Bool → Bool → List Item → Reading (List Item)
  | 0, _, _, _, read => return settledItems read
  | fuel + 1, room, verbose, first, read => do
    match ← peek with
    | none => return settledItems read
    | some (.plain '|') => return settledItems read
    | some (.plain ')') => return settledItems read
    | some next =>
      let start := (← get).position
      let _ ← take
      match next with
      | .loneBackslash => return settledItems read
      | .escape c => sequence fuel room verbose first ((← itemEscape c) :: read)
      | .plain c =>
        if verbose && isSkipped c then sequence fuel room verbose first read
        else if verbose && c == '#' then
          let _ ← skipPast '\n' ((← get).tokens.length + 1)
          sequence fuel room verbose first read
        else if c == '[' then sequence fuel room verbose first ((← bracketed) :: read)
        else if c == '*' then
          sequence fuel room verbose first (← repeatLast start 0 none read)
        else if c == '+' then
          sequence fuel room verbose first (← repeatLast start 1 none read)
        else if c == '?' then
          sequence fuel room verbose first (← repeatLast start 0 (some 1) read)
        else if c == '\x7b' then
          match ← counts? with
          | none => sequence fuel room verbose first (.literal c.toNat :: read)
          | some (least, most) =>
            sequence fuel room verbose first (← repeatLast start least most read)
        else if c == '.' then sequence fuel room verbose first (.dot :: read)
        else if c == '^' then sequence fuel room verbose first (.edge .lineStart :: read)
        else if c == '$' then sequence fuel room verbose first (.edge .lineEnd :: read)
        else if c == '(' then
          match ← opening start with
          | .done none => sequence fuel room verbose first read
          | .done (some item) => sequence fuel room verbose first (item :: read)
          | .wholeFlags =>
            if !first || !read.isEmpty then
              refuse "global flags not at the start of the expression"
                ((← get).position - start)
            sequence fuel room (← get).flags.verbose first read
          | .plain name =>
            let index ← openGroup name
            let body ← deeper room fun room => alternatives fuel room verbose false []
            closing start
            checkRoom room (Item.widthDepthOfAll body + 1)
            closeGroup index (Item.widthOfAll body)
            sequence fuel room verbose first (.group (some index) {} {} body :: read)
          | .uncaptured added removed =>
            let inner := (verbose || added.verbose) && !removed.verbose
            let body ← deeper room fun room => alternatives fuel room inner false []
            closing start
            sequence fuel room verbose first (.group none added removed body :: read)
          | .atomic =>
            let body ← deeper room fun room => alternatives fuel room verbose false []
            closing start
            sequence fuel room verbose first (.atomic body :: read)
          | .look ahead positive =>
            let outer := (← get).lookBehind
            if !ahead && outer.isNone then
              modify fun s => { s with lookBehind := some s.widths.length }
            let body ← deeper room fun room => alternatives fuel room verbose false []
            if !ahead && outer.isNone then modify fun s => { s with lookBehind := none }
            closing start
            sequence fuel room verbose first (.look ahead positive body :: read)
          | .condition =>
            let index ← conditionGroup
            checkLookBehind index
            let branch := deeper room fun room => sequence fuel room verbose false []
            let present ← branch
            let absent ← if ← accept '|' then some <$> branch else pure none
            let next ← peek
            if absent.isSome && next == some (.plain '|') then
              refuse "conditional backref with more than two branches" 0
            closing start
            sequence fuel room verbose first (.conditional index present absent :: read)
        else sequence fuel room verbose first (.literal c.toNat :: read)

end

/-- Reads a whole pattern. -/
def whole (room : Nat) : Reading (List Item) := do
  checkNext
  let items ← deeper room fun room => do
    alternatives (3 * (← get).tokens.length + 3) room false true []
  let s ← get
  if s.flags.ascii && s.flags.unicode then throw .kindsConflict
  if !s.tokens.isEmpty then refuse "unbalanced parenthesis" 0
  match s.asked.find? fun (index, _) => s.widths.length ≤ index with
  | some (index, position) =>
    throw (.malformed s!"invalid group reference {index}" (some position))
  | none => return items

end Reading

/-- A pattern as written: its items, the flags for the whole of it and the number of its groups. -/
structure Written where
  items : List Item
  flags : Flags
  groups : Nat

/-- Reads a pattern text. -/
def Written.ofText (room : Nat) (source : String) : Except Fault Written := do
  let (items, s) ← (deeper room Reading.whole).run (Progress.start source)
  return ⟨items, s.flags, s.widths.length⟩

end PlaybookLint.Pattern
