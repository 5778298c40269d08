import PlaybookLint.Failure.Table

/-!
Classification of failure texts. A blank text is no failure; any other is settled by the first row
that recognises it, and a text that no row recognises has to be shown to the user as it is.
-/

namespace PlaybookLint.Failure

/-- What a failure text turned out to be. Except for a blank text, the text itself is kept. -/
inductive Classification where
  | diagnostic (rule : String) (found : Diagnostic) (detail : String)
  | benign (rule detail : String)
  | unclassified (detail : String)
  | empty
deriving Repr, DecidableEq

namespace Classification

def kindName : Classification → String
  | .diagnostic _ _ _ => "diagnostic"
  | .benign _ _ => "benign"
  | .unclassified _ => "unclassified"
  | .empty => "empty"

def rule? : Classification → Option String
  | .diagnostic rule _ _ => some rule
  | .benign rule _ => some rule
  | _ => none

def diagnostics : Classification → List Diagnostic
  | .diagnostic _ found _ => [found]
  | _ => []

def detail : Classification → String
  | .diagnostic _ _ detail => detail
  | .benign _ detail => detail
  | .unclassified detail => detail
  | .empty => ""

/-- Must the failure be shown to the user directly? -/
def needsEscalation : Classification → Bool
  | .unclassified _ => true
  | _ => false

end Classification

namespace Table

/-- The first row that recognises the text, and what it captured. -/
def match? (text : String) : Table → Except Pattern.BrokenGroup (Option (Row × Groups))
  | [] => .ok none
  | row :: rest => do
    match ← row.find text with
    | some groups => return some (row, groups)
    | none => match? text rest

/-- Classifies a text by the first row that recognises it. -/
def classify (table : Table) (target : Target) (text : String) :
    Except HandlerFault Classification :=
  if Text.isAllBlank text then .ok .empty
  else
    match match? text table with
    | .error fault => .error (.group fault)
    | .ok none => .ok (.unclassified text)
    | .ok (some (row, groups)) =>
      match row.handler with
      | none => .ok (.benign row.name text)
      | some handler => do
        let found ← handler.diagnostic target groups text
        return .diagnostic row.name found text

/-- What is logged while a text is classified. -/
def log (table : Table) (text : String) : List LogRecord :=
  if Text.isAllBlank text then []
  else
    match match? text table with
    | .ok (some (row, _)) => (row.handler.map (·.log text)).getD []
    | _ => []

end Table

end PlaybookLint.Failure
