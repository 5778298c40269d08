import PlaybookLint.Diagnostic
import PlaybookLint.Target
import PlaybookLint.Text.DecimalDigit
import PlaybookLint.Text.Blank
import PlaybookLint.Text.Lines
import PlaybookLint.Text.Occurrence

/-!
Lines of the linter's report. A finding is written as a path, a colon, a line number, a colon, a
blank, a code in square brackets, a blank and a message; where a line can be read in several ways the
shortest path counts. All other lines are passed over. A finding belongs to the linted file if its
path is that file or if the line mentions the file anywhere.
-/

namespace PlaybookLint

/-- A line of a report, taken apart. `rest` is a line feed at the end that is no part of the finding,
or nothing. -/
structure Finding where
  path : List Char
  line : List Char
  code : List Char
  message : List Char
  rest : List Char
deriving Repr, DecidableEq

namespace Finding

/-- A character of a code. -/
def isCodeChar (c : Char) : Bool := c != ']' && !Text.isBlank c

/-- The message, and what is left of the line after it: at most a line feed. -/
def messageAndRest? (s : List Char) : Option (List Char × List Char) :=
  let rest := s.dropWhile (· != '\n')
  if rest.isEmpty || rest == ['\n'] then some (s.takeWhile (· != '\n'), rest) else none

/-- The code in brackets between two blanks, and what follows it. -/
def code? : List Char → Option (List Char × List Char)
  | before :: '[' :: s =>
    let code := s.takeWhile isCodeChar
    match s.dropWhile isCodeChar with
    | ']' :: after :: s =>
      if Text.isBlank before && !code.isEmpty && Text.isBlank after then some (code, s) else none
    | _ => none
  | _ => none

/-- The line number between two colons, and what follows it. -/
def line? : List Char → Option (List Char × List Char)
  | ':' :: s =>
    let digits := s.takeWhile Text.isDecimalDigit
    match s.dropWhile Text.isDecimalDigit with
    | ':' :: s => if digits.isEmpty then none else some (digits, s)
    | _ => none
  | _ => none

/-- A finding whose path is complete: what follows is a line number, a code and a message. -/
def afterPath? (s : List Char) : Option Finding := do
  let (line, s) ← line? s
  let (code, s) ← code? s
  let (message, rest) ← messageAndRest? s
  return ⟨[], line, code, message, rest⟩

/-- The finding with one more character in front of its path. -/
def lengthen (c : Char) (f : Finding) : Finding := { f with path := c :: f.path }

/-- A finding whose path goes on for as few characters as possible. -/
def shortest? : List Char → Option Finding
  | [] => none
  | c :: s =>
    match afterPath? (c :: s) with
    | some f => some f
    | none => if c == '\n' then none else (shortest? s).map (lengthen c)

/-- Reads a line of a report. A path has at least one character. -/
def read? : List Char → Option Finding
  | [] => none
  | c :: s => if c == '\n' then none else (shortest? s).map (lengthen c)

/-- The part of the line that was read. -/
def shown (f : Finding) (line : List Char) : List Char := line.take (line.length - f.rest.length)

/-- The file that a finding on a line belongs to. -/
def file (target : Target) (f : Finding) (line : List Char) : String :=
  let name := target.name.toList
  if f.path == name || Text.occurs name (f.shown line) then target.name
  else target.locate (String.ofList f.path)

/-- The diagnostic that a finding on a line stands for. -/
def diagnostic (target : Target) (f : Finding) (line : List Char) :
    Except Text.TooManyDigits Diagnostic :=
  (Text.readNumber f.line).map fun number =>
    ⟨.warning, String.ofList f.message, f.file target line, .ofReport number none,
      some (String.ofList f.code)⟩

end Finding

namespace Report

/-- The diagnostics of the lines of a report, in order. A line number of too many digits spoils the
whole report. -/
def diagnosticsOfLines (target : Target) : List (List Char) →
    Except Text.TooManyDigits (List Diagnostic)
  | [] => .ok []
  | line :: rest =>
    match Finding.read? line with
    | none => diagnosticsOfLines target rest
    | some f => do
      let d ← f.diagnostic target line
      let later ← diagnosticsOfLines target rest
      return d :: later

/-- The diagnostics of a report. -/
def diagnostics (target : Target) (report : String) :
    Except Text.TooManyDigits (List Diagnostic) :=
  diagnosticsOfLines target (Text.splitLines report.toList)

end Report

end PlaybookLint
