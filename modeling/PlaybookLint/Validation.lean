/-!
Problems found while a value is checked against what is expected of it. Every problem has a place,
the keys that lead to the value, and a complaint. Checks that do not depend on one another report
all their problems together, in order.
-/

namespace PlaybookLint

/-- What is wrong with a value. -/
inductive Complaint where
  | missing
  | notText
  | notUnicode
  | notList
  | notFlag
  | unknownFlag
  | notNumber
  | unreadableNumber
  | notPositive
  | belowZero
  | notInteger
  | unreadableInteger
  | fractional
  | integerTooLarge
  | notFinite
  | notSeverity
  | notTable (model : String)
  | notPath
  | rejected (reason : String)
deriving Repr, DecidableEq

namespace Complaint

def message : Complaint → String
  | .missing => "Field required"
  | .notText => "Input should be a valid string"
  | .notUnicode => "Input should be a valid string, unable to parse raw data as a unicode string"
  | .notList => "Input should be a valid tuple"
  | .notFlag => "Input should be a valid boolean"
  | .unknownFlag => "Input should be a valid boolean, unable to interpret input"
  | .notNumber => "Input should be a valid number"
  | .unreadableNumber => "Input should be a valid number, unable to parse string as a number"
  | .notPositive => "Input should be greater than 0"
  | .belowZero => "Input should be greater than or equal to 0"
  | .notInteger => "Input should be a valid integer"
  | .unreadableInteger => "Input should be a valid integer, unable to parse string as an integer"
  | .fractional => "Input should be a valid integer, got a number with a fractional part"
  | .integerTooLarge => "Unable to parse input string as an integer, exceeded maximum size"
  | .notFinite => "Input should be a finite number"
  | .notSeverity => "Input should be 'info', 'warning' or 'error'"
  | .notTable model => s!"Input should be a valid dictionary or instance of {model}"
  | .notPath => "Input is not a valid path for <class 'pathlib.Path'>"
  | .rejected reason => s!"Value error, {reason}"

/-- The short name of the complaint. -/
def label : Complaint → String
  | .missing => "missing"
  | .notText => "string_type"
  | .notUnicode => "string_unicode"
  | .notList => "tuple_type"
  | .notFlag => "bool_type"
  | .unknownFlag => "bool_parsing"
  | .notNumber => "float_type"
  | .unreadableNumber => "float_parsing"
  | .notPositive => "greater_than"
  | .belowZero => "greater_than_equal"
  | .notInteger => "int_type"
  | .unreadableInteger => "int_parsing"
  | .fractional => "int_from_float"
  | .integerTooLarge => "int_parsing_size"
  | .notFinite => "finite_number"
  | .notSeverity => "enum"
  | .notTable _ => "model_type"
  | .notPath => "path_type"
  | .rejected _ => "value_error"

end Complaint

/-- A complaint and the keys that lead to the value complained about. -/
structure Problem where
  place : List String
  complaint : Complaint
deriving Repr, DecidableEq

namespace Problem

/-- The problem as seen from one level further out. -/
def under (key : String) (p : Problem) : Problem := { p with place := key :: p.place }

def lines (p : Problem) : List String :=
  (if p.place.isEmpty then [] else [".".intercalate p.place])
    ++ [s!"  {p.complaint.message} [type={p.complaint.label}]"]

end Problem

/-- All problems of one value, which was to become a `model`. -/
structure ProblemReport where
  model : String
  problems : List Problem
deriving Repr, DecidableEq

def ProblemReport.text (r : ProblemReport) : String :=
  let count := r.problems.length
  let noun := if count == 1 then "error" else "errors"
  let head := s!"{count} validation {noun} for {r.model}"
  "\n".intercalate (head :: r.problems.flatMap Problem.lines)

/-- A value, or all problems that were found instead. -/
abbrev Checked (α : Type) := Except (List Problem) α

namespace Checked

/-- A single problem at the value itself. -/
def complain {α : Type} (c : Complaint) : Checked α := .error [⟨[], c⟩]

/-- Seen from one level further out. -/
def under {α : Type} (key : String) (x : Checked α) : Checked α :=
  x.mapError (·.map (Problem.under key))

/-- Two independent checks; the problems of both are kept. -/
def both {α β : Type} (x : Checked α) (y : Checked β) : Checked (α × β) :=
  match x, y with
  | .ok a, .ok b => .ok (a, b)
  | .error p, .ok _ => .error p
  | .ok _, .error q => .error q
  | .error p, .error q => .error (p ++ q)

/-- Independent checks of a list of values. -/
def all {α : Type} : List (Checked α) → Checked (List α)
  | [] => .ok []
  | x :: rest => (x.both (all rest)).map fun (a, rest) => a :: rest

/-- The value, or the report of its problems. -/
def report {α : Type} (model : String) (x : Checked α) : Except ProblemReport α :=
  x.mapError (⟨model, ·⟩)

end Checked

end PlaybookLint
