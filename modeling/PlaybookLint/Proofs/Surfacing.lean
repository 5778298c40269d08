import PlaybookLint.Proofs.Classification
import PlaybookLint.Proofs.Interpretation

/-!
What becomes of the reason for which a run of the linter program failed. The reason is looked at
together with what stands on the error output, so a phrase there can settle what happens to it. The
conditions under which the reason reaches the user are exact.
-/

namespace PlaybookLint

namespace ToolOutput

variable {output : ToolOutput} {reason : String}

theorem reason_of_failure (told : output.failure = some reason) (given : reason ≠ "") :
    output.reason? = some reason := by
  have filled : reason.isEmpty = false := String.isEmpty_eq_false_iff.mpr given
  simp only [reason?, told, Option.filter_some, filled, Bool.not_false, if_true]

theorem failed_of_reason (told : output.reason? = some reason) : output.failed = true := by
  simp only [failed, told, Option.isSome_some, Bool.true_or]

theorem all_blank_append (first second : String) :
    Text.isAllBlank (first ++ second) = (Text.isAllBlank first && Text.isAllBlank second) := by
  simp only [Text.isAllBlank, String.toList_append, List.all_append]

/-- The failure text ends in the reason. -/
theorem error_text_ends_in_reason (told : output.reason? = some reason) :
    ∃ before, output.errorText = before ++ reason := by
  cases complains : output.complains with
  | true => exact ⟨output.stderr ++ "\n", by simp only [errorText, told, complains, if_true]⟩
  | false =>
      refine ⟨"", ?_⟩
      simp only [errorText, told, complains, Bool.false_eq_true, if_false, String.empty_append]

theorem error_text_blank_iff (told : output.reason? = some reason) :
    Text.isAllBlank output.errorText = true ↔
      Text.isAllBlank output.stderr = true ∧ Text.isAllBlank reason = true := by
  cases blank : Text.isAllBlank output.stderr with
  | false =>
      have complains : output.complains = true := by simp only [complains, blank, Bool.not_false]
      simp only [errorText, told, complains, if_true, all_blank_append, blank, Bool.false_and,
        Bool.false_eq_true, false_and]
  | true =>
      have silent : output.complains = false := by simp only [complains, blank, Bool.not_true]
      simp only [errorText, told, silent, Bool.false_eq_true, if_false, true_and]

end ToolOutput

namespace Linter

/-- The reason of a failure reaches the user: the failure comes out as the one diagnostic that it is
classified as, or the user is notified of one error whose detail tells the reason. -/
def Surfaces (target : Target) (output : ToolOutput) (reason : String) : Prop :=
  let run := interpret Failure.Table.default target output
  (∃ rule found, Failure.Table.default.classify target output.errorText =
      .ok (.diagnostic rule found output.errorText) ∧
    run.outcome = .ok [found] ∧ run.notices = []) ∨
  ∃ notice, run.notices = [notice] ∧ notice.grade = .error ∧
    reason.toList <:+: notice.detail.toList

variable {target : Target} {output : ToolOutput} {reason : String}

theorem surfaces_diagnostic (failed : output.failed = true) {rule : String} {found : Diagnostic}
    (known : Failure.Table.default.classify target output.errorText =
      .ok (.diagnostic rule found output.errorText)) : Surfaces target output reason := by
  obtain ⟨notices, outcome⟩ := interpret_classified failed known
  exact .inl ⟨rule, found, known, outcome, notices⟩

theorem surfaces_unknown (told : output.reason? = some reason)
    (known : Failure.Table.default.classify target output.errorText =
      .ok (.unclassified output.errorText)) : Surfaces target output reason := by
  have notices := (interpret_classified (ToolOutput.failed_of_reason told) known).1
  obtain ⟨before, ends⟩ := ToolOutput.error_text_ends_in_reason told
  refine .inr ⟨escalation output.errorText, notices, rfl, ?_⟩
  have suffix : reason.toList <:+ output.errorText.toList :=
    ⟨before.toList, by rw [ends, String.toList_append]⟩
  exact suffix.isInfix

/-- A failure that is no diagnostic and of which the user is not notified does not surface. -/
theorem not_surfaces
    (other : ∀ rule found, Failure.Table.default.classify target output.errorText ≠
      .ok (.diagnostic rule found output.errorText))
    (silent : (interpret Failure.Table.default target output).notices = []) :
    ¬Surfaces target output reason := by
  rintro (⟨rule, found, known, _, _⟩ | ⟨notice, notices, _, _⟩)
  · exact other rule found known
  · rw [silent] at notices
    cases notices

/-- A harmless classification swallows whatever else the failure text tells. -/
theorem not_surfaces_benign (failed : output.failed = true) {rule text : String}
    (known : Failure.Table.default.classify target output.errorText = .ok (.benign rule text)) :
    ¬Surfaces target output reason := by
  apply not_surfaces
  · intro rule found other
    rw [known] at other
    cases other
  · exact (interpret_classified failed known).1

theorem not_surfaces_blank (failed : output.failed = true)
    (known : Failure.Table.default.classify target output.errorText = .ok .empty) :
    ¬Surfaces target output reason := by
  apply not_surfaces
  · intro rule found other
    rw [known] at other
    cases other
  · exact (interpret_classified failed known).1

theorem not_surfaces_spoiled (failed : output.failed = true) {fault : Failure.HandlerFault}
    (broken : Failure.Table.default.classify target output.errorText = .error fault) :
    ¬Surfaces target output reason := by
  apply not_surfaces
  · intro rule found other
    rw [broken] at other
    cases other
  · exact (interpret_spoiled failed broken).1

/-- A reason reaches the user exactly if something is said at all, the hint about skipping rules is
not the only phrase that is known, and no place in a YAML error has too many digits. -/
theorem failure_surfaces_iff (target : Target) (output : ToolOutput) (reason : String)
    (told : output.failure = some reason) (given : reason ≠ "") :
    Surfaces target output reason ↔
      ¬(Text.isAllBlank output.stderr = true ∧ Text.isAllBlank reason = true) ∧
        ¬Failure.Table.OnlyHint output.errorText ∧
        ¬Failure.Table.UnreadablePlace output.errorText := by
  have cause := ToolOutput.reason_of_failure told given
  have failed := ToolOutput.failed_of_reason cause
  rw [← ToolOutput.error_text_blank_iff cause]
  constructor
  · intro surfaces
    have spoken : Text.isAllBlank output.errorText = false := by
      rw [← Bool.not_eq_true]
      intro blank
      have known : Failure.Table.default.classify target output.errorText = .ok .empty := by
        simp only [Failure.Table.classify, blank, if_true]
      exact not_surfaces_blank failed known surfaces
    refine ⟨?_, ?_, ?_⟩
    · rw [spoken]
      exact Bool.false_ne_true
    · intro hint
      have known := Failure.Table.classify_only_hint spoken hint target
      exact not_surfaces_benign failed known surfaces
    · intro unreadable
      obtain ⟨_, broken⟩ := Failure.Table.classify_unreadable_place spoken unreadable target
      exact not_surfaces_spoiled failed broken surfaces
  · rintro ⟨spoken, noHint, readable⟩
    rcases Failure.Table.classify_default_cases target output.errorText with
      ⟨blank, _⟩ | ⟨_, hint, _⟩ | ⟨_, unreadable, _⟩ | ⟨_, known⟩ | ⟨_, rule, found, known⟩
    · exact absurd blank spoken
    · exact absurd hint noHint
    · exact absurd unreadable readable
    · exact surfaces_unknown cause known
    · exact surfaces_diagnostic failed known

/-- A program that was stopped by its time limit while it was still at work. -/
def timedOut : ToolOutput where
  stdout := ""
  stderr := "Loading custom rules"
  returnCode := none
  failure := some "Command 'ansible-lint' timed out after 10.0s"

theorem timed_out_surfaces :
    timedOut.failure = some "Command 'ansible-lint' timed out after 10.0s" ∧
      "Command 'ansible-lint' timed out after 10.0s" ≠ "" ∧
      Surfaces ⟨.ofText "/work/site.yml", .ofText "/work"⟩ timedOut
        "Command 'ansible-lint' timed out after 10.0s" := by
  refine ⟨rfl, by decide, (failure_surfaces_iff _ _ _ rfl (by decide)).mpr ⟨?_, ?_, ?_⟩⟩
  · rintro ⟨blank, _⟩
    revert blank
    decide +kernel
  · rintro ⟨_, mentioned⟩
    revert mentioned
    decide +kernel
  · rintro ⟨_, mentioned, _⟩
    revert mentioned
    decide +kernel

/-- The same, but what the program had written so far was the hint about skipping rules. -/
def timedOutAfterHint : ToolOutput :=
  { timedOut with stderr := "You can skip specific rules" }

/-- The time limit goes by without a word: there is no diagnostic and no notice. -/
theorem timed_out_after_hint_is_swallowed :
    timedOutAfterHint.failure = some "Command 'ansible-lint' timed out after 10.0s" ∧
      "Command 'ansible-lint' timed out after 10.0s" ≠ "" ∧
      ¬Surfaces ⟨.ofText "/work/site.yml", .ofText "/work"⟩ timedOutAfterHint
        "Command 'ansible-lint' timed out after 10.0s" := by
  have failed : timedOutAfterHint.failed = true := by decide +kernel
  have passed : Failure.Table.PassOver (Failure.Table.default.take 6) timedOutAfterHint.errorText := by
    intro row among
    simp only [Failure.Table.default, List.take_succ_cons, List.take_zero, List.mem_cons,
      List.not_mem_nil, or_false] at among
    rcases among with rfl | rfl | rfl | rfl | rfl | rfl
    · exact congrArg Except.ok (by decide +kernel)
    · exact congrArg Except.ok (by decide +kernel)
    · exact congrArg Except.ok (by decide +kernel)
    · exact congrArg Except.ok (by decide +kernel)
    · exact congrArg Except.ok (by decide +kernel)
    · exact congrArg Except.ok (by decide +kernel)
  have hint : Failure.Table.OnlyHint timedOutAfterHint.errorText := ⟨passed, by decide +kernel⟩
  have known := Failure.Table.classify_only_hint (by decide +kernel) hint
    ⟨.ofText "/work/site.yml", .ofText "/work"⟩
  exact ⟨rfl, by decide, not_surfaces_benign failed known⟩

end Linter

end PlaybookLint
