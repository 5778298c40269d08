import PlaybookLint.Files.Tree
import PlaybookLint.Shell.Syntax

/-!
Patterns of the shell. A star stands for any run of characters, a question mark for any one, and
brackets for one of several. Characters that were quoted stand for themselves.
-/

namespace PlaybookLint.Shell

/-- A text read as a pattern: characters and whether they were quoted. -/
abbrev GlobText := List (Char × Bool)

/-- A member of a bracket: a range, or a class by its name. -/
inductive GlobMember where
  | range (low high : Char)
  | named (name : String)
deriving Repr, DecidableEq

inductive GlobItem where
  | exactly (c : Char)
  | any
  | star
  | bracket (negated : Bool) (members : List GlobMember)
deriving Repr, DecidableEq

abbrev Glob := List GlobItem

namespace Glob

/-- Is the character of a class? -/
def inClass (name : String) (c : Char) : Bool :=
  match name with
  | "alpha" => isLetter c
  | "digit" => isDigit c
  | "alnum" => isLetter c || isDigit c
  | "upper" => 'A' ≤ c && c ≤ 'Z'
  | "lower" => 'a' ≤ c && c ≤ 'z'
  | "space" => isSpace c
  | "blank" => isBlank c
  | "punct" => '!' ≤ c && c ≤ '~' && !isLetter c && !isDigit c
  | "print" => ' ' ≤ c && c ≤ '~'
  | "graph" => '!' ≤ c && c ≤ '~'
  | "cntrl" => c < ' ' || c == '\x7f'
  | "xdigit" => (digitValue? 16 c).isSome
  | _ => false

/-- The class whose name stands between colons, and what follows its bracket. -/
def className? (s : GlobText) : Option (String × GlobText) :=
  match s with
  | (':', _) :: rest =>
    let name := rest.takeWhile fun (c, _) => isLetter c
    match rest.drop name.length with
    | (':', _) :: (']', _) :: after => some (String.ofList (name.map (·.1)), after)
    | _ => none
  | _ => none

/-- Takes a character of a bracket; a backslash stands for the one after it. -/
def takeMember : GlobText → Option (Char × GlobText)
  | [] => none
  | ('\\', false) :: (d, _) :: rest => some (d, rest)
  | (c, _) :: rest => some (c, rest)

/-- Reads the members of a bracket up to its end. -/
def members? : Nat → Bool → GlobText → List GlobMember → Option (List GlobMember × GlobText)
  | 0, _, _, _ => none
  | _, _, [], _ => none
  | fuel + 1, first, (c, quoted) :: rest, done =>
    if c == ']' && !quoted && !first then some (done.reverse, rest)
    else
      match if c == '[' && !quoted then className? rest else none with
      | some (name, rest) => members? fuel false rest (.named name :: done)
      | none =>
        match takeMember ((c, quoted) :: rest) with
        | none => none
        | some (low, rest) =>
          match rest with
          | ('-', false) :: (d, quoted) :: more =>
            if d == ']' && !quoted then members? fuel false rest (.range low low :: done)
            else
              match takeMember ((d, quoted) :: more) with
              | none => none
              | some (high, rest) => members? fuel false rest (.range low high :: done)
          | _ => members? fuel false rest (.range low low :: done)

/-- Reads a bracket after its beginning. -/
def bracket? (caret : Bool) (s : GlobText) : Option (GlobItem × GlobText) :=
  let negated := match s with
    | ('!', false) :: _ => true
    | ('^', false) :: _ => caret
    | _ => false
  let inside := if negated then s.drop 1 else s
  (members? (inside.length + 1) true inside []).map fun (members, rest) =>
    (.bracket negated members, rest)

/-- Reads a pattern. With `caret`, a caret negates a bracket as an exclamation mark does. -/
def ofTextWithin (caret : Bool) : Nat → GlobText → Glob
  | 0, _ => []
  | _, [] => []
  | fuel + 1, (c, quoted) :: rest =>
    if quoted then .exactly c :: ofTextWithin caret fuel rest
    else
      match c with
      | '*' => .star :: ofTextWithin caret fuel rest
      | '?' => .any :: ofTextWithin caret fuel rest
      | '\\' =>
        match rest with
        | [] => [.exactly '\\']
        | (d, _) :: rest => .exactly d :: ofTextWithin caret fuel rest
      | '[' =>
        match bracket? caret rest with
        | some (item, rest) => item :: ofTextWithin caret fuel rest
        | none => .exactly '[' :: ofTextWithin caret fuel rest
      | c => .exactly c :: ofTextWithin caret fuel rest

def ofText (caret : Bool) (s : GlobText) : Glob := ofTextWithin caret (s.length + 1) s

/-- Does a member of a bracket stand for the character? -/
def memberAdmits (c : Char) : GlobMember → Bool
  | .range low high => low ≤ c && c ≤ high
  | .named name => inClass name c

/-- The ends of a text, the whole of it first. -/
def endsOf : Octets → List Octets
  | [] => [[]]
  | c :: rest => (c :: rest) :: endsOf rest

/-- Does the pattern stand for all of the text? -/
def admits : Glob → Octets → Bool
  | [], s => s.isEmpty
  | .star :: rest, s => (endsOf s).any (admits rest)
  | .exactly c :: rest, d :: s => c == d && admits rest s
  | .any :: rest, _ :: s => admits rest s
  | .bracket negated members :: rest, d :: s =>
    members.any (memberAdmits d) != negated && admits rest s
  | _ :: _, [] => false

/-- Can the pattern stand for nothing but one text? -/
def isPlain (g : Glob) : Bool :=
  g.all fun
    | .exactly _ => true
    | _ => false

/-- The text that a plain pattern stands for. -/
def plainText (g : Glob) : Octets :=
  g.filterMap fun
    | .exactly c => some c
    | _ => none

end Glob

/-- The numbers of characters at the beginning of a text, the shortest first. -/
def prefixLengths (s : Octets) : List Nat := List.range (s.length + 1)

/-- A text without the part at its beginning, or at its end, that a pattern stands for. -/
def trimPattern (fromEnd longest : Bool) (g : Glob) (s : Octets) : Octets :=
  let fits (n : Nat) : Bool :=
    if fromEnd then g.admits (s.drop (s.length - n)) else g.admits (s.take n)
  let lengths := if longest then (prefixLengths s).reverse else prefixLengths s
  match lengths.find? fits with
  | none => s
  | some n => if fromEnd then s.take (s.length - n) else s.drop n

/-- The first place in a text at which a pattern stands for a part, the longest one: what is before
it, the part, and what follows. -/
def findPattern? (g : Glob) (s : Octets) : Option (Octets × Octets × Octets) :=
  (List.range (s.length + 1)).findSome? fun start =>
    let rest := s.drop start
    ((prefixLengths rest).reverse.find? fun n => g.admits (rest.take n)).map fun n =>
      (s.take start, rest.take n, rest.drop n)

end PlaybookLint.Shell
