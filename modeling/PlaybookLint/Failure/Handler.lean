import PlaybookLint.Failure.Phrase
import PlaybookLint.Diagnostic
import PlaybookLint.Target
import PlaybookLint.Log
import PlaybookLint.Pattern
import PlaybookLint.Trouble

/-!
What is made of a recognised failure: one diagnostic. The library's own handlers put it on the linted
file unless the failure text tells another place; others may be brought along.
-/

namespace PlaybookLint.Failure

/-- Why a failure could not be recognised or could not become a diagnostic. -/
inductive HandlerFault where
  /-- A line or column number is too long to be read. -/
  | number (refusal : Text.TooManyDigits)
  /-- The phrase captured nothing, where a path was needed. -/
  | noGroup
  /-- The search for the phrase noted a group wrongly. -/
  | group (fault : Pattern.BrokenGroup)
  /-- A handler from outside ran into trouble. -/
  | trouble (t : Trouble)
deriving Repr, DecidableEq

def missingFileExcerpt (path : String) : String :=
  s!"Missing file {path}. Please fix before continuing linter use."

def unreadableFileExcerpt (path : String) : String :=
  s!"{path} is unreadable or not a file. Please fix before continuing linter use."

def yamlSyntaxExcerpt : String := "YAML syntax error."

def ansibleSyntaxExcerpt : String := "Ansible syntax error."

def vaultExcerpt : String := "File must be decrypted with ansible-vault prior to linting."

def stdinExcerpt : String :=
  "Ansible-Lint cannot reliably lint on stdin due to nonexistent pathing on includes and roles. "
    ++ "Please save this playbook to your filesystem."

/-- The name that stands for a file where there is none. -/
def stdinLabel : String := "Save this playbook."

/-- A captured text, or the word for nothing. -/
def groupText : Option String → String
  | some s => s
  | none => "None"

/-- A line and a column, as a range of one column. -/
def rangeOfDigits (place : List Char × List Char) : Except HandlerFault Range :=
  match Text.readNumber place.1, Text.readNumber place.2 with
  | .ok line, .ok column => .ok (.ofReport line (some (column : Int)))
  | .error refusal, _ => .error (.number refusal)
  | .ok _, .error refusal => .error (.number refusal)

/-- What is made of a kind of failure: a diagnostic for what was captured in a text, and what is
logged beside it. -/
structure Handler where
  diagnostic : Target → Groups → String → Except HandlerFault Diagnostic
  log : String → List LogRecord := fun _ => []

namespace Handler

/-- The diagnostic for a syntax error in YAML: file and place as far as the text tells them. -/
def yamlDiagnostic (target : Target) (text : List Char) : Except HandlerFault Diagnostic := do
  let file := match errorFile? text with
    | some file => String.ofList file
    | none => target.name
  let range ← match lineColumn? text with
    | some place => rangeOfDigits place
    | none => .ok Range.fileStart
  return ⟨.error, yamlSyntaxExcerpt, file, range, none⟩

/-- A missing file, on the linted one. -/
def missingFile : Handler where
  diagnostic target groups _ :=
    match groups with
    | [] => .error .noGroup
    | path :: _ => .ok (.ofFile .error (missingFileExcerpt (groupText path)) target.name)

/-- A file that cannot be read, on the linted one. -/
def unreadableFile : Handler where
  diagnostic target groups _ :=
    let path := String.join (groups.filterMap id)
    .ok (.ofFile .error (unreadableFileExcerpt path) target.name)

def yamlSyntax : Handler where
  diagnostic target _ text := yamlDiagnostic target text.toList

/-- A syntax error beyond YAML. The places that are told are logged, but they are not to be relied
on. -/
def ansibleSyntax : Handler where
  diagnostic target _ text :=
    let excerpt := (nonEmpty? (yamlMessage? text.toList)).getD ansibleSyntaxExcerpt
    .ok (.ofFile .error excerpt target.name)
  log text :=
    let file := groupText (nonEmpty? (firstPlace taskFileHere text.toList))
    let line := groupText (nonEmpty? (firstPlace taskLineHere text.toList))
    [.debug .failures s!"ansible syntax error candidates: file={file} line={line}"]

def vault : Handler where
  diagnostic target _ _ := .ok (.ofFile .info vaultExcerpt target.name)

def stdin : Handler where
  diagnostic _ _ _ := .ok (.ofFile .info stdinExcerpt stdinLabel)

end Handler

end PlaybookLint.Failure
