/-!
The three grades of a finding, from a mere notice to an error.
-/

namespace PlaybookLint

inductive Severity where
  | info
  | warning
  | error
deriving Repr, DecidableEq

namespace Severity

def name : Severity → String
  | .info => "info"
  | .warning => "warning"
  | .error => "error"

def ofName? : String → Option Severity
  | "info" => some .info
  | "warning" => some .warning
  | "error" => some .error
  | _ => none

/-- The place of a grade in the order of weight. -/
def rank : Severity → Nat
  | .info => 0
  | .warning => 1
  | .error => 2

/-- What is said of something that is no grade, as it is shown. -/
def unknown (shown : String) : String := s!"{shown} is not a valid Severity"

end Severity

end PlaybookLint
