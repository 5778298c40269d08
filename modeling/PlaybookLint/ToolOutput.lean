import PlaybookLint.Validation.Coerce

/-!
What one run of the linter left behind: its two outputs, its return code if it came to an end, and
the reason if it did not.
-/

namespace PlaybookLint

structure ToolOutput where
  stdout : String
  stderr : String
  returnCode : Option Int
  failure : Option String
deriving Repr, DecidableEq

namespace ToolOutput

/-- A run that left nothing. -/
def silent : ToolOutput := ⟨"", "", none, none⟩

/-- A run that did not come to an end, for a reason. -/
def ofFailure (reason : String) : ToolOutput := { silent with failure := some reason }

/-- The reason why the run failed, if there is one and it is not empty. -/
def reason? (o : ToolOutput) : Option String := o.failure.filter (!·.isEmpty)

/-- Is there anything on the error output? -/
def complains (o : ToolOutput) : Bool := !Text.isAllBlank o.stderr

/-- Must the run be looked at as a failure? -/
def failed (o : ToolOutput) : Bool := o.reason?.isSome || o.complains

/-- The text in which the failure is told. -/
def errorText (o : ToolOutput) : String :=
  match o.reason? with
  | some reason => if o.complains then o.stderr ++ "\n" ++ reason else reason
  | none => o.stderr

def ofDatum (d : Datum) : Checked ToolOutput := do
  let entries ← d.asEntries "RawToolOutput"
  let (stdout, stderr, returnCode, failure) ←
    (Datum.defaulting entries "stdout" "" Datum.asText).both <|
    (Datum.defaulting entries "stderr" "" Datum.asText).both <|
    (Datum.defaulting entries "returncode" none (Datum.asOptional Datum.asInteger)).both <|
    Datum.defaulting entries "failure" none (Datum.asOptional Datum.asText)
  return ⟨stdout, stderr, returnCode, failure⟩

end ToolOutput

end PlaybookLint
