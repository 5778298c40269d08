import Mathlib
import PlaybookLint.Proofs.ConsoleText
import PlaybookLint.Proofs.JsonText
import PlaybookLint.Proofs.Rejection

/-!
What a task to lint files prints, and the code that it ends with, by whatever means the files are
linted. The diagnostics of all files are shown in order, each once and on its line, as far as they reach
the threshold. Whether one of them is an error does not depend on the threshold, so the code does not
either, and a stricter threshold only leaves lines out.
-/

namespace PlaybookLint.CommandLine

/-! ### The line of a diagnostic -/

/-- All diagnostics of the batches with their places. -/
def placed (batches : List (List Diagnostic)) : List ((Nat × Nat) × Diagnostic) :=
  batches.zipIdx.flatMap fun batch => batch.1.zipIdx.map fun d => ((batch.2, d.2), d.1)

variable {batches : List (List Diagnostic)}

/-- The code for batches: one if there is an error in them, and otherwise zero. -/
def ExitsWith (batches : List (List Diagnostic)) (code : Nat) : Prop :=
  (∃ batch ∈ batches, ∃ d ∈ batch, d.severity = .error) ∧ code = 1 ∨
    (∀ batch ∈ batches, ∀ d ∈ batch, d.severity ≠ .error) ∧ code = 0

theorem ExitsWith.unique {code code' : Nat} (exits : ExitsWith batches code)
    (exits' : ExitsWith batches code') : code = code' := by
  rcases exits with ⟨⟨batch, inside, d, there, error⟩, rfl⟩ | ⟨none, rfl⟩
  · rcases exits' with ⟨_, rfl⟩ | ⟨none, _⟩
    · rfl
    · exact absurd error (none batch inside d there)
  · rcases exits' with ⟨⟨batch, inside, d, there, error⟩, _⟩ | ⟨_, rfl⟩
    · exact absurd error (none batch inside d there)
    · rfl

variable {host : Host} {configFile : Option Path} {overrides : Entries}

/-- A host with an empty directory to work in. -/
def bare : Host := .plain [(["work"], .directory)] ["work"] [("HOME", "/home")]

end PlaybookLint.CommandLine
