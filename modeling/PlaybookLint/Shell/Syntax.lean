import PlaybookLint.Shell.Octets

/-!
The commands of the language in which stand-in programs are written, the shell's. A script is read
command by command; words keep their quoting, as expanding them depends on it.
-/

namespace PlaybookLint.Shell

/-- The two shells. The larger one knows more commands and says things in words of its own. -/
inductive Dialect where
  | plain
  | extended
deriving Repr, DecidableEq

/-- Where a redirection leads to. A document is known by its number. -/
inductive RedirectKind where
  | read
  | write
  | clobber
  | append
  | readWrite
  | duplicate
  | document (number : Nat)
  /-- A word that is read as it is, with a line feed after it. -/
  | inline
  /-- Both outputs go to one file. -/
  | writeBoth
  | appendBoth
deriving Repr, DecidableEq

/-- How a choice goes on after an arm that has been carried out. -/
inductive Continuation where
  | stop
  /-- The next arm is carried out whatever its patterns are. -/
  | fallThrough
  /-- The patterns of the arms that follow are tried. -/
  | tryNext
deriving Repr, DecidableEq

mutual

/-- A part of a word. What is quoted is neither split into fields nor read as a pattern. -/
inductive Piece where
  | plain (s : Octets)
  | quoted (s : Octets)
  | value (name : Octets) (use : Use) (quoted : Bool)
  | output (body : List Command) (quoted : Bool)
  | sum (expression : List Piece) (quoted : Bool)

/-- What is made of a value. `ifEmpty` treats a value that is empty like one that is not set. -/
inductive Use where
  | itself
  | length
  | instead (ifEmpty : Bool) (word : List Piece)
  | assign (ifEmpty : Bool) (word : List Piece)
  | demand (ifEmpty : Bool) (word : List Piece)
  | alternative (ifEmpty : Bool) (word : List Piece)
  | trim (fromEnd longest : Bool) (pattern : List Piece)
  | broken
  | slice (offset : List Piece) (length : Option (List Piece))
  /-- `place` is a slash for all places, a hash or a percent sign for the two ends. -/
  | replace (place : Option Char) (pattern replacement : List Piece)
  | recase (upper all : Bool) (pattern : List Piece)
  | indirect
  /-- The element of an array, and what is made of it. -/
  | element (index : List Piece) (use : Use)

/-- An assignment; one may add to what is there. -/
inductive Assignment where
  | scalar (name : Octets) (adds : Bool) (value : List Piece)
  | element (name : Octets) (index : List Piece) (adds : Bool) (value : List Piece)
  | array (name : Octets) (adds : Bool) (items : List (Option (List Piece) × List Piece))

inductive Redirect where
  | mk (line : Nat) (fd : Option Nat) (kind : RedirectKind) (target : List Piece)

/-- The conditions in double brackets. -/
inductive Condition where
  | both (first second : Condition)
  | either (first second : Condition)
  | negated (inner : Condition)
  | unary (name : Octets) (word : List Piece)
  | binary (first : List Piece) (name : Octets) (second : List Piece)

/-- The commands. Many know the line that they begin on. -/
inductive Command where
  | simple (line : Nat) (assignments : List Assignment) (words : List (List Piece))
      (redirects : List Redirect)
  | redirected (line : Nat) (body : Command) (redirects : List Redirect)
  | pipeline (parts : List Command)
  | background (body : Command)
  | negated (body : Command)
  | both (first second : Command)
  | either (first second : Command)
  | group (body : List Command)
  | subshell (line : Nat) (body : List Command)
  | branch (test consequence : List Command) (otherwise : List Command)
  | loop (untilTrue : Bool) (test body : List Command)
  | each (line : Nat) (name : Octets) (words : Option (List (List Piece))) (body : List Command)
  | choice (line : Nat) (subject : List Piece)
      (arms : List (List (List Piece) × List Command × Continuation))
  | define (name : Octets) (body : Command)
  | condition (line : Nat) (condition : Condition)
  | arithmetic (line : Nat) (expression : List Piece)
  | counted (line : Nat) (start test step : List Piece) (body : List Command)

end

abbrev Word := List Piece

/-- The text of a word that is nothing but unquoted text. -/
def Word.bare? : Word → Option Octets
  | [] => some []
  | [.plain s] => some s
  | _ => none

end PlaybookLint.Shell
