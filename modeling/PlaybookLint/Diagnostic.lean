import PlaybookLint.Position
import PlaybookLint.Severity

/-!
Diagnostics: what is wrong, how bad it is, and where. A diagnostic can be laid out for an editor or
written on one line.
-/

namespace PlaybookLint

structure Diagnostic where
  severity : Severity
  excerpt : String
  file : String
  range : Range
  code : Option String
deriving Repr, DecidableEq

namespace Diagnostic

/-- A diagnostic for a file as a whole, at its first column. -/
def ofFile (severity : Severity) (excerpt file : String) : Diagnostic :=
  ⟨severity, excerpt, file, .fileStart, none⟩

def severityOfDatum : Datum → Checked Severity
  | .text name =>
    match Severity.ofName? name with
    | some s => .ok s
    | none => Checked.complain .notSeverity
  | _ => Checked.complain .notSeverity

def ofDatum (d : Datum) : Checked Diagnostic := do
  let entries ← d.asEntries "Diagnostic"
  let (severity, excerpt, file, range, code) ←
    (Datum.required entries "severity" severityOfDatum).both <|
    (Datum.required entries "excerpt" Datum.asText).both <|
    (Datum.required entries "file" Datum.asText).both <|
    (Datum.required entries "range" Range.ofDatum).both <|
    Datum.defaulting entries "code" none (Datum.asOptional Datum.asText)
  return ⟨severity, excerpt, file, range, code⟩

/-- The layout that editors read. -/
def toHost (d : Diagnostic) : Datum :=
  .table ([("severity", .text d.severity.name), ("excerpt", .text d.excerpt),
    ("location", .table [("file", .text d.file), ("position", d.range.toDatum)])]
    ++ match d.code with
      | some code => [("code", .text code)]
      | none => [])

/-- One line, places counted from one; an empty code is left out. -/
def concise (d : Diagnostic) : String :=
  let code := match d.code with
    | some code => if code.isEmpty then "" else s!" [{code}]"
    | none => ""
  let start := d.range.start
  s!"{d.file}:{start.line + 1}:{start.column + 1}: {d.severity.name}{code} {d.excerpt}"

end Diagnostic

end PlaybookLint
