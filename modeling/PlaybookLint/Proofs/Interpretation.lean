import PlaybookLint.Linter
import PlaybookLint.Proofs.Run

/-!
How the linter program's output is read, told by cases. What a run of the reading does is settled by
whether the output counts as failed and by the classification of its failure text; nothing is called,
and the user hears of nothing but a failure that nobody knows.
-/

namespace PlaybookLint

namespace Failure.Table

/-- A text that no row recognises is handed on as it is. -/
theorem classify_unclassified_detail {table : Table} {target : Target} {text detail : String}
    (unknown : table.classify target text = .ok (.unclassified detail)) : detail = text := by
  unfold classify at unknown
  split at unknown
  · cases unknown
  · split at unknown
    · cases unknown
    · cases unknown
      rfl
    · rename_i row groups matched
      cases handled : row.handler with
      | none =>
          rw [handled] at unknown
          cases unknown
      | some handler =>
          simp only [handled] at unknown
          cases made : handler.diagnostic target groups text with
          | error fault =>
              rw [made] at unknown
              cases unknown
          | ok found =>
              rw [made] at unknown
              cases unknown

end Failure.Table

namespace Linter

/-- What the report in an output comes to. -/
def reported (target : Target) (output : ToolOutput) : Except LintFault (List Diagnostic) :=
  (Report.diagnostics target output.stdout).mapError .report

/-- The ways in which an output is read: the texts that the user is told of as errors, in order, and
the outcome. -/
inductive Reading (table : Failure.Table) (target : Target) (output : ToolOutput) :
    List String → Except LintFault (List Diagnostic) → Prop
  /-- Nothing failed, so the report counts. -/
  | sound (healthy : output.failed = false) :
      Reading table target output [] (reported target output)
  /-- A known failure stands in place of the report. -/
  | recognised {rule text : String} {found : Diagnostic} (failed : output.failed = true)
      (known : table.classify target output.errorText = .ok (.diagnostic rule found text)) :
      Reading table target output [] (.ok [found])
  /-- The failure text is known to be harmless. -/
  | harmless {rule text : String} (failed : output.failed = true)
      (known : table.classify target output.errorText = .ok (.benign rule text)) :
      Reading table target output [] (reported target output)
  /-- There is a failure, but nothing is said of it. -/
  | blank (failed : output.failed = true)
      (known : table.classify target output.errorText = .ok .empty) :
      Reading table target output [] (reported target output)
  /-- Nobody knows the failure: the user is told its text, and the report counts as well. -/
  | unknown (failed : output.failed = true)
      (known : table.classify target output.errorText = .ok (.unclassified output.errorText)) :
      Reading table target output [output.errorText] (reported target output)
  /-- The failure text could not be dealt with. -/
  | spoiled {fault : Failure.HandlerFault} (failed : output.failed = true)
      (broken : table.classify target output.errorText = .error fault) :
      Reading table target output [] (.error (.handler fault))

theorem calls_read_report (target : Target) (report : String) :
    (readReport target report).calls = [] := rfl

theorem notices_read_report (target : Target) (report : String) :
    (readReport target report).notices = [] := rfl

theorem outcome_classify (table : Failure.Table) (target : Target) (text : String) :
    (classify table target text).outcome = (table.classify target text).mapError .handler := by
  rw [classify, Run.outcome_log_bind]
  rfl

theorem calls_classify (table : Failure.Table) (target : Target) (text : String) :
    (classify table target text).calls = [] := by
  rw [classify, Run.calls_log_bind]
  rfl

theorem notices_classify (table : Failure.Table) (target : Target) (text : String) :
    (classify table target text).notices = [] := by
  rw [classify, Run.notices_log_bind]
  rfl

/-- What is done once a failure text is classified. -/
def conclude (target : Target) (report : String) :
    Failure.Classification → Run LintFault (List Diagnostic)
  | .diagnostic rule diagnostic _ => do
    Run.log [.debug .linter s!"classified ansible-lint failure as {rule}"]
    return [diagnostic]
  | .unclassified detail => do
    Run.notify (escalation detail)
    readReport target report
  | .benign _ _ | .empty => readReport target report

theorem interpret_healthy {output : ToolOutput} (healthy : output.failed = false)
    (table : Failure.Table) (target : Target) :
    interpret table target output = readReport target output.stdout := by
  simp only [interpret, healthy, Bool.not_false, if_true]

theorem interpret_failed {output : ToolOutput} (failed : output.failed = true)
    (table : Failure.Table) (target : Target) :
    interpret table target output =
      classify table target output.errorText >>= conclude target output.stdout := by
  simp only [interpret, failed, Bool.not_true, Bool.false_eq_true, if_false]
  rfl

theorem calls_conclude (target : Target) (report : String) (found : Failure.Classification) :
    (conclude target report found).calls = [] := by
  cases found <;> rfl

/-- Reading an output calls nothing. -/
theorem calls_interpret (table : Failure.Table) (target : Target) (output : ToolOutput) :
    (interpret table target output).calls = [] := by
  cases failed : output.failed with
  | false =>
      rw [interpret_healthy failed]
      exact calls_read_report target output.stdout
  | true =>
      rw [interpret_failed failed]
      cases classified : (classify table target output.errorText).outcome with
      | error fault =>
          rw [Run.bind_error classified]
          exact calls_classify table target output.errorText
      | ok found =>
          rw [Run.calls_bind_ok classified, calls_classify, calls_conclude, List.append_nil]

/-- The run of an output that failed and was classified. -/
theorem interpret_classified {output : ToolOutput} (failed : output.failed = true)
    {table : Failure.Table} {target : Target} {found : Failure.Classification}
    (classified : table.classify target output.errorText = .ok found) :
    (interpret table target output).notices = (conclude target output.stdout found).notices ∧
      (interpret table target output).outcome = (conclude target output.stdout found).outcome := by
  have came : (classify table target output.errorText).outcome = .ok found := by
    rw [outcome_classify, classified]
    rfl
  rw [interpret_failed failed, Run.notices_bind_ok came, Run.outcome_bind_ok came,
    notices_classify, List.nil_append]
  exact ⟨rfl, rfl⟩

/-- The run of an output that failed with a text that could not be dealt with. -/
theorem interpret_spoiled {output : ToolOutput} (failed : output.failed = true)
    {table : Failure.Table} {target : Target} {fault : Failure.HandlerFault}
    (broken : table.classify target output.errorText = .error fault) :
    (interpret table target output).notices = [] ∧
      (interpret table target output).outcome = .error (.handler fault) := by
  have ended : (classify table target output.errorText).outcome = .error (.handler fault) := by
    rw [outcome_classify, broken]
    rfl
  rw [interpret_failed failed, Run.bind_error ended]
  exact ⟨notices_classify table target output.errorText, rfl⟩

/-- Every output is read in one of the ways above. -/
theorem interpret_reading (table : Failure.Table) (target : Target) (output : ToolOutput) :
    ∃ told, (interpret table target output).notices = told.map escalation ∧
      Reading table target output told (interpret table target output).outcome := by
  cases failed : output.failed with
  | false =>
      rw [interpret_healthy failed]
      exact ⟨[], notices_read_report target output.stdout, .sound failed⟩
  | true =>
      cases classified : table.classify target output.errorText with
      | error fault =>
          obtain ⟨notices, outcome⟩ := interpret_spoiled failed classified
          rw [notices, outcome]
          exact ⟨[], rfl, .spoiled failed classified⟩
      | ok found =>
          obtain ⟨notices, outcome⟩ := interpret_classified failed classified
          rw [notices, outcome]
          cases found with
          | diagnostic rule found text => exact ⟨[], rfl, .recognised failed classified⟩
          | benign rule text => exact ⟨[], rfl, .harmless failed classified⟩
          | unclassified detail =>
              have verbatim := Failure.Table.classify_unclassified_detail classified
              subst verbatim
              exact ⟨[output.errorText], rfl, .unknown failed classified⟩
          | empty => exact ⟨[], rfl, .blank failed classified⟩

theorem reported_error {target : Target} {output : ToolOutput} {fault : LintFault}
    (failed : reported target output = .error fault) : ∃ refusal, fault = .report refusal := by
  rw [reported] at failed
  cases read : Report.diagnostics target output.stdout with
  | ok found =>
      rw [read] at failed
      cases failed
  | error refusal =>
      rw [read] at failed
      exact ⟨refusal, (Except.error.inj failed).symm⟩

/-- Reading fails over the report or over the classification of the failure text. -/
theorem Reading.fault_cases {table : Failure.Table} {target : Target} {output : ToolOutput}
    {told : List String} {fault : LintFault}
    (reading : Reading table target output told (.error fault)) :
    (∃ refusal, fault = .report refusal) ∨
      ∃ inner, table.classify target output.errorText = .error inner ∧ fault = .handler inner := by
  generalize ended : (Except.error fault : Except LintFault (List Diagnostic)) = outcome at reading
  cases reading with
  | recognised failed known => cases ended
  | spoiled failed broken => exact .inr ⟨_, broken, Except.error.inj ended⟩
  | sound healthy => exact .inl (reported_error ended.symm)
  | harmless failed known => exact .inl (reported_error ended.symm)
  | blank failed known => exact .inl (reported_error ended.symm)
  | unknown failed known => exact .inl (reported_error ended.symm)

end Linter

end PlaybookLint
