import PlaybookLint.Pattern
import PlaybookLint.Shell.Octets

/-!
The expressions that programs of the system search texts with. In the basic form parentheses, braces,
bars, plus signs and question marks need a backslash to be special; in the extended form they need one
not to be. The whole expression is made the first group of a search pattern, so that its place is known.
-/

namespace PlaybookLint.Shell

/-- The characters of a class in brackets, as they are written in a search pattern. -/
def classText (name : Octets) : String :=
  match String.ofList name with
  | "alpha" => "a-zA-Z"
  | "digit" => "0-9"
  | "alnum" => "a-zA-Z0-9"
  | "upper" => "A-Z"
  | "lower" => "a-z"
  | "space" => " \\t\\n\\r\\f\\v"
  | "blank" => " \\t"
  | "punct" => "!-/:-@\\[-\x60\\\x7b-~"
  | "print" => " -~"
  | "graph" => "!-~"
  | "cntrl" => "\\x00-\\x1f\\x7f"
  | "xdigit" => "0-9A-Fa-f"
  | _ => ""

/-- Writes the members of a bracket up to its end. -/
def bracketText : Nat → Bool → List Char → List Char × List Char
  | 0, _, s => ([], s)
  | _, _, [] => ([], [])
  | fuel + 1, first, s =>
    match s with
    | ']' :: rest =>
      if first then
        let (more, after) := bracketText fuel false rest
        ('\\' :: ']' :: more, after)
      else ([']'], rest)
    | '[' :: ':' :: rest =>
      let name := rest.takeWhile (· != ':')
      let (more, after) := bracketText fuel false (rest.drop (name.length + 2))
      ((classText name).toList ++ more, after)
    | c :: rest =>
      let (more, after) := bracketText fuel false rest
      if c == '[' || c == '\\' then ('\\' :: c :: more, after) else (c :: more, after)
    | [] => ([], [])

/-- Writes a bracket after its beginning. -/
def writeBracket (s : List Char) : List Char × List Char :=
  match s with
  | '^' :: rest =>
    let (more, after) := bracketText (rest.length + 1) true rest
    ('[' :: '^' :: more, after)
  | rest =>
    let (more, after) := bracketText (rest.length + 1) true rest
    ('[' :: more, after)

/-- Is the character special in one of the forms with a backslash and in the other without? -/
def changesForm (c : Char) : Bool := ['(', ')', '\x7b', '\x7d', '|', '+', '?'].contains c

/-- Writes an expression as a search pattern. `start` tells that an alternative begins here. -/
def patternText (extended : Bool) : Nat → Bool → List Char → List Char
  | 0, _, _ => []
  | _, _, [] => []
  | fuel + 1, start, c :: rest =>
    match c, rest with
    | '[', rest =>
      let (written, after) := writeBracket rest
      written ++ patternText extended fuel false after
    | '\\', [] => ['\\', '\\']
    | '\\', d :: rest =>
      if changesForm d then
        let opens := d == '(' || d == '|'
        if extended then ['\\', d] ++ patternText extended fuel false rest
        else d :: patternText extended fuel opens rest
      else if isDigit d && d != '0' then
        (ofText s!"(?:\\{d.toNat - 47})") ++ patternText extended fuel false rest
      else if d == '<' || d == '>' then ['\\', 'b'] ++ patternText extended fuel false rest
      else if ['w', 'W', 's', 'S', 'b', 'B'].contains d then
        ['\\', d] ++ patternText extended fuel false rest
      else if d == 'n' || d == 't' then ['\\', d] ++ patternText extended fuel false rest
      else escaped d ++ patternText extended fuel false rest
    | '*', rest =>
      if start then ['\\', '*'] ++ patternText extended fuel false rest
      else '*' :: patternText extended fuel false rest
    | '^', rest =>
      if extended || start then '^' :: patternText extended fuel true rest
      else ['\\', '^'] ++ patternText extended fuel false rest
    | '$', rest =>
      let ends := rest.isEmpty || rest.take 2 == ['\\', ')'] || rest.take 2 == ['\\', '|']
      if extended || ends then '$' :: patternText extended fuel false rest
      else ['\\', '$'] ++ patternText extended fuel false rest
    | c, rest =>
      if changesForm c then
        if extended then c :: patternText extended fuel (c == '(' || c == '|') rest
        else ['\\', c] ++ patternText extended fuel false rest
      else c :: patternText extended fuel false rest
where
  escaped (c : Char) : List Char := if isNameChar c then [c] else ['\\', c]

/-- Reads an expression. -/
def compileExpression (extended ignoresCase : Bool) (expression : Octets) : Option Pattern :=
  let chars := (toText expression).toList
  let body := String.ofList (patternText extended (chars.length + 1) true chars)
  let source := (if ignoresCase then "(?i)(" else "(") ++ body ++ ")"
  (Pattern.compile (4 * source.length + 8) source).toOption

/-- The places of the first match from a place on, the whole of it first, then the groups. -/
def findExpression? (p : Pattern) (text : Pattern.Subject) (start : Nat) :
    Option (List (Option (Nat × Nat))) :=
  let marks? := p.searchFrom text start (text.size + 1 - start)
  marks?.map fun marks => (List.range p.groups).map fun k => marks.bounds? (k + 1)

/-- Does the expression occur in a text? -/
def occursIn (p : Pattern) (text : Octets) : Bool :=
  (findExpression? p (toText text).toList.toArray 0).isSome

end PlaybookLint.Shell
