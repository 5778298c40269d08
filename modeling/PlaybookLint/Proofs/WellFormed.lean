import PlaybookLint.Proofs.Composition
import PlaybookLint.Proofs.Interpretation
import PlaybookLint.Proofs.LineEnds
import PlaybookLint.Proofs.Outcome
import PlaybookLint.Proofs.PathText

/-!
Well-formed diagnostics. Whatever the linter program leaves behind, the diagnostics that are made of
it cover one column of one line and are written on one line themselves. Those from a report are
warnings with a code; a known failure is a single diagnostic of another grade and without a code, and
at the beginning of its file unless it is a syntax error in YAML.
-/

namespace PlaybookLint

namespace Diagnostic

/-- The diagnostic covers one column, and its parts are written on one line. A code has something in
it, but no blank and no bracket that would close it. -/
structure WellFormed (d : Diagnostic) : Prop where
  column : d.range = .oneColumn d.range.start
  excerpt : '\n' ∉ d.excerpt.toList
  file : '\n' ∉ d.file.toList
  code : ∀ code, d.code = some code →
    code ≠ "" ∧ ∀ c ∈ code.toList, c ≠ ']' ∧ Text.isBlank c = false

/-- What is made of a failure: no warning, no code, and the beginning of a file if the failure is not
one of YAML. -/
structure OfFailure (rule : String) (d : Diagnostic) : Prop where
  grade : d.severity ≠ .warning
  uncoded : d.code = none
  anchored : rule ≠ "yaml-syntax" → d.range = .fileStart

theorem of_file_formed {severity : Severity} {excerpt file : String} (grade : severity ≠ .warning)
    (single : '\n' ∉ excerpt.toList) (single' : '\n' ∉ file.toList) (rule : String) :
    (ofFile severity excerpt file).WellFormed ∧ (ofFile severity excerpt file).OfFailure rule :=
  ⟨⟨rfl, single, single', nofun⟩, ⟨grade, rfl, fun _ => rfl⟩⟩

theorem feed_not_in_severity (s : Severity) : '\n' ∉ s.name.toList := by
  cases s <;> decide

theorem WellFormed.concise_single {d : Diagnostic} (formed : d.WellFormed) :
    '\n' ∉ d.concise.toList := by
  have inCode : ∀ code, d.code = some code → '\n' ∉ code.toList := by
    intro code coded feed
    have blank := ((formed.code code coded).2 _ feed).2
    revert blank
    decide
  -- Whether there is a code, none or an empty one, it is told as a text without line feeds.
  have told : ∃ code, '\n' ∉ code.toList ∧ d.concise = d.file ++ ":" ++
      Nat.repr (d.range.start.line + 1) ++ ":" ++ Nat.repr (d.range.start.column + 1) ++ ": " ++
      d.severity.name ++ code ++ " " ++ d.excerpt := by
    cases coded : d.code with
    | none => exact ⟨"", by decide, by simp only [concise, coded, toString]⟩
    | some code =>
        by_cases nothing : code.isEmpty = true
        · exact ⟨"", by decide, by simp only [concise, coded, nothing, toString, if_true]⟩
        · refine ⟨" [" ++ code ++ "]", ?_, ?_⟩
          · simp [inCode code coded]
          · simp only [concise, coded, nothing, toString, if_false, Bool.false_eq_true]
  obtain ⟨code, single, told⟩ := told
  rw [told]
  simp [formed.file, formed.excerpt, single, feed_not_in_severity, Text.feed_not_in_numeral]

end Diagnostic

namespace Failure

open Diagnostic

/-! ### What phrases capture -/

theorem up_to_last_single {stop : List Char → Bool} {text taken : List Char}
    (captured : upToLast stop text = some taken) : '\n' ∉ taken := by
  induction text generalizing taken with
  | nil =>
      rw [upToLast] at captured
      split at captured
      · cases captured
        exact List.not_mem_nil
      · cases captured
  | cons c rest ih =>
      simp only [upToLast] at captured
      split at captured
      · rename_i taken' later
        cases captured
        split at later
        · cases later
        · rename_i inside
          rw [List.mem_cons, not_or]
          exact ⟨fun same => inside (beq_iff_eq.mpr same.symm), ih later⟩
      · split at captured
        · cases captured
          exact List.not_mem_nil
        · cases captured

theorem first_place_some {α : Type} {here : List Char → Option α} {text : List Char} {a : α}
    (found : firstPlace here text = some a) : ∃ rest, here rest = some a := by
  induction text with
  | nil => exact ⟨[], found⟩
  | cons c rest ih =>
      rw [firstPlace] at found
      cases there : here (c :: rest) with
      | some b =>
          rw [there] at found
          exact ⟨c :: rest, there.trans found⟩
      | none =>
          rw [there] at found
          exact ih found

theorem between_here_single {opening closing : String} {text taken : List Char}
    (captured : betweenHere opening closing text = some taken) : '\n' ∉ taken := by
  obtain ⟨rest, _, upTo⟩ := Option.bind_eq_some_iff.mp captured
  exact up_to_last_single upTo

theorem between_single {opening closing : String} {text taken : List Char}
    (captured : between opening closing text = some taken) : '\n' ∉ taken := by
  obtain ⟨rest, here⟩ := first_place_some captured
  exact between_here_single here

theorem yaml_message_single {text message : List Char} (told : yamlMessage? text = some message) :
    '\n' ∉ message := by
  obtain ⟨rest, here⟩ := first_place_some told
  simp only [yamlMessageHere, Option.bind_eq_bind, Option.bind_eq_some_iff] at here
  obtain ⟨⟨digits, after⟩, _, after', _, made⟩ := here
  cases made
  intro feed
  have passes := Text.all_of_take_while after' _ feed
  revert passes
  decide

theorem missing_file_groups {text : String} {groups : Groups}
    (captured : findMissingFile text = some groups) :
    ∃ path, groups = [some path] ∧ '\n' ∉ path.toList := by
  obtain ⟨path, between, same⟩ := Option.map_eq_some_iff.mp captured
  refine ⟨String.ofList path, same.symm, ?_⟩
  rw [String.toList_ofList]
  exact between_single between

/-- Only one of the three wordings takes part. -/
theorem unreadable_file_groups {text : String} {groups : Groups}
    (captured : findUnreadableFile text = some groups) :
    ∃ path, String.join (groups.filterMap id) = path ∧ '\n' ∉ path.toList := by
  obtain ⟨rest, here⟩ := first_place_some captured
  simp only [unreadableHere, Option.orElse_eq_orElse, Option.orElse_eq_or, Option.or_eq_some_iff,
    Option.map_eq_some_iff] at here
  rcases here with ⟨_, ⟨path, between, rfl⟩, rfl⟩ |
      ⟨_, ⟨_, ⟨path, between, rfl⟩, rfl⟩ | ⟨_, _, ⟨path, between, rfl⟩, rfl⟩⟩
  all_goals
    refine ⟨String.ofList path, by simp, ?_⟩
    rw [String.toList_ofList]
    exact between_here_single between

/-! ### What the default table makes of failures -/

theorem missing_file_excerpt_single {path : String} (single : '\n' ∉ path.toList) :
    '\n' ∉ (missingFileExcerpt path).toList := by
  simp [missingFileExcerpt, toString, single]

theorem unreadable_file_excerpt_single {path : String} (single : '\n' ∉ path.toList) :
    '\n' ∉ (unreadableFileExcerpt path).toList := by
  simp [unreadableFileExcerpt, toString, single]

theorem ansible_excerpt_single (text : List Char) :
    '\n' ∉ ((nonEmpty? (yamlMessage? text)).getD ansibleSyntaxExcerpt).toList := by
  have usual : '\n' ∉ ansibleSyntaxExcerpt.toList := by decide
  cases told : yamlMessage? text with
  | none => exact usual
  | some message =>
      simp only [nonEmpty?, Option.bind_some]
      split
      · exact usual
      · rw [Option.getD_some, String.toList_ofList]
        exact yaml_message_single told

theorem range_of_digits_column {place : List Char × List Char} {range : Range}
    (read : rangeOfDigits place = .ok range) : range = .oneColumn range.start := by
  rw [rangeOfDigits] at read
  split at read
  · cases read
    rfl
  · cases read
  · cases read

/-- The diagnostic for YAML is the only one of a failure that may stand further down in a file. -/
theorem of_yaml_formed {file : String} {range : Range} (single : '\n' ∉ file.toList)
    (column : range = .oneColumn range.start) :
    (⟨.error, yamlSyntaxExcerpt, file, range, none⟩ : Diagnostic).WellFormed ∧
      (⟨.error, yamlSyntaxExcerpt, file, range, none⟩ : Diagnostic).OfFailure "yaml-syntax" := by
  have excerpt : '\n' ∉ yamlSyntaxExcerpt.toList := by decide
  exact ⟨⟨column, excerpt, single, nofun⟩, ⟨nofun, rfl, fun other => absurd rfl other⟩⟩

variable {target : Target} (file : '\n' ∉ target.name.toList)

include file

theorem error_file_single (text : List Char) :
    '\n' ∉ (match errorFile? text with
      | some named => String.ofList named
      | none => target.name).toList := by
  cases told : errorFile? text with
  | some named =>
      rw [String.toList_ofList]
      exact between_single told
  | none => exact file

theorem yaml_diagnostic_formed {text : List Char} {found : Diagnostic}
    (made : Handler.yamlDiagnostic target text = .ok found) :
    found.WellFormed ∧ found.OfFailure "yaml-syntax" := by
  cases told : lineColumn? text with
  | none =>
      simp only [Handler.yamlDiagnostic, told] at made
      cases made
      exact of_yaml_formed (error_file_single file text) rfl
  | some place =>
      simp only [Handler.yamlDiagnostic, told] at made
      obtain ⟨range, read, same⟩ := Outcome.bind_ok made
      cases same
      exact of_yaml_formed (error_file_single file text) (range_of_digits_column read)

theorem default_diagnostic_formed {row : Row} (member : row ∈ Table.default) {text : String}
    {groups : Groups} (captured : row.find text = .ok (some groups)) {handler : Handler}
    (handles : row.handler = some handler) {found : Diagnostic}
    (made : handler.diagnostic target groups text = .ok found) :
    found.WellFormed ∧ found.OfFailure row.name := by
  simp only [Table.default, List.mem_cons, List.not_mem_nil, or_false] at member
  -- The rows stand in their order; the last has no handler.
  rcases member with rfl | rfl | rfl | rfl | rfl | rfl | rfl
  · cases handles
    obtain ⟨path, rfl, single⟩ := missing_file_groups (Except.ok.inj captured)
    cases made
    exact of_file_formed (by decide) (missing_file_excerpt_single single) file _
  · cases handles
    obtain ⟨path, joined, single⟩ := unreadable_file_groups (Except.ok.inj captured)
    have excerpt := unreadable_file_excerpt_single single
    rw [← joined] at excerpt
    cases made
    exact of_file_formed (by decide) excerpt file _
  · cases handles
    exact yaml_diagnostic_formed file made
  · cases handles
    cases made
    exact of_file_formed (by decide) (ansible_excerpt_single text.toList) file _
  · cases handles
    cases made
    exact of_file_formed (by decide) (by decide +kernel) file _
  · cases handles
    cases made
    exact of_file_formed (by decide) (by decide +kernel) (by decide +kernel) _
  · cases handles

theorem Table.default_classified_formed {text rule detail : String} {found : Diagnostic}
    (known : default.classify target text = .ok (.diagnostic rule found detail)) :
    found.WellFormed ∧ found.OfFailure rule := by
  have verdict := classify_verdict default target text
  generalize outcome : default.classify target text = classified at verdict
  rw [known] at outcome
  cases verdict with
  | blank blank => cases outcome
  | unknown spoken passed => cases outcome
  | broken spoken settles broke => cases outcome
  | benign spoken settles captured harmless => cases outcome
  | @handled index row groups handler spoken settles captured handles =>
      obtain ⟨diagnostic, made, same⟩ := Outcome.map_ok outcome.symm
      cases same
      have member := List.mem_of_getElem? settles.place
      exact default_diagnostic_formed file member captured handles made

end Failure

namespace Report

open Finding

theorem diagnostic_of_formed {target : Target} {line path number code message : List Char}
    (single : '\n' ∉ line) (file : '\n' ∉ target.name.toList)
    (directory : '\n' ∉ target.directory.text.toList)
    (reads : Reads line path number code message) (value : Nat) :
    (diagnosticOf target line path code message value).WellFormed := by
  obtain ⟨_, rest, cut, tail⟩ := reads
  rw [cut, List.mem_append, not_or] at single
  obtain ⟨inPath, inRest⟩ := single
  refine ⟨rfl, ?_, ?_, ?_⟩
  · simp only [diagnosticOf, String.toList_ofList]
    exact tail.message_single inRest
  · simp only [diagnosticOf]
    split
    · exact file
    · apply Target.locate_single directory
      rw [String.toList_ofList]
      exact inPath
  · intro code' coded
    cases coded
    rw [String.toList_ofList]
    refine ⟨fun empty => tail.coded ?_, tail.bare⟩
    rw [← String.toList_ofList (l := code), empty]
    rfl

theorem line_of_diagnostic {target : Target} {lines : List (List Char)} {all : List Diagnostic}
    (read : diagnosticsOfLines target lines = .ok all) {d : Diagnostic} (member : d ∈ all) :
    ∃ line ∈ lines, ∃ f, Finding.read? line = some f ∧ f.diagnostic target line = .ok d := by
  induction lines generalizing all with
  | nil =>
      cases read
      cases member
  | cons line rest ih =>
      rw [diagnosticsOfLines] at read
      cases parts : Finding.read? line with
      | none =>
          rw [parts] at read
          obtain ⟨other, among, f, found⟩ := ih read member
          exact ⟨other, List.mem_cons_of_mem line among, f, found⟩
      | some f =>
          simp only [parts] at read
          obtain ⟨first, here, read⟩ := Outcome.bind_ok read
          obtain ⟨others, later, same⟩ := Outcome.bind_ok read
          cases same
          rcases List.mem_cons.mp member with rfl | after
          · exact ⟨line, List.mem_cons_self, f, parts, here⟩
          · obtain ⟨other, among, g, found⟩ := ih later after
            exact ⟨other, List.mem_cons_of_mem line among, g, found⟩

/-- All that a report says is well-formed, and a warning with a code. -/
theorem diagnostics_formed {target : Target} (file : '\n' ∉ target.name.toList)
    (directory : '\n' ∉ target.directory.text.toList) {report : String} {all : List Diagnostic}
    (read : diagnostics target report = .ok all) {d : Diagnostic} (member : d ∈ all) :
    d.WellFormed ∧ d.severity = .warning ∧ d.code ≠ none := by
  obtain ⟨line, among, ⟨path, number, code, message, rest⟩, parts, made⟩ :=
    line_of_diagnostic read member
  have single : '\n' ∉ line := Text.feed_not_in_line among
  obtain ⟨nothing, reads, _⟩ := (read_eq_some_iff single _).mp parts
  cases nothing
  rw [diagnostic_of_parts] at made
  obtain ⟨value, _, rfl⟩ := Outcome.map_ok made
  exact ⟨diagnostic_of_formed single file directory reads value, rfl, nofun⟩

end Report

namespace Linter

/-- The diagnostic is one of those that the report of the output gives. -/
def FromReport (target : Target) (output : ToolOutput) (d : Diagnostic) : Prop :=
  ∃ all, Report.diagnostics target output.stdout = .ok all ∧ d ∈ all

/-- The diagnostic is what the default table makes of the failure of the output. -/
def FromFailure (target : Target) (output : ToolOutput) (rule : String) (d : Diagnostic) : Prop :=
  output.failed = true ∧
    ∃ text, Failure.Table.default.classify target output.errorText = .ok (.diagnostic rule d text)

/-- The diagnostics of an output are those of its report, or the one of its failure. -/
theorem interpret_sources {target : Target} {output : ToolOutput} {found : List Diagnostic}
    (came : (interpret Failure.Table.default target output).outcome = .ok found) :
    (∃ rule d, FromFailure target output rule d ∧ found = [d]) ∨
      (∀ rule d, ¬FromFailure target output rule d) ∧
        Report.diagnostics target output.stdout = .ok found := by
  obtain ⟨told, _, reading⟩ := interpret_reading Failure.Table.default target output
  rw [came] at reading
  have other {classified : Failure.Classification}
      (known : Failure.Table.default.classify target output.errorText = .ok classified)
      (plain : classified.diagnostics = []) (rule : String) (d : Diagnostic) :
      ¬FromFailure target output rule d := by
    rintro ⟨_, text, recognised⟩
    cases known.symm.trans recognised
    cases plain
  have said (reported : Except.ok found = reported target output) :
      Report.diagnostics target output.stdout = .ok found := Outcome.map_error_ok reported.symm
  -- Every reading but two comes to what is reported, and then nothing was recognised.
  generalize outcome : (Except.ok found : Except LintFault (List Diagnostic)) = ended at reading
  cases reading with
  | recognised failed known =>
      cases outcome
      exact .inl ⟨_, _, ⟨failed, _, known⟩, rfl⟩
  | spoiled failed broken => cases outcome
  | sound healthy =>
      refine .inr ⟨?_, said outcome⟩
      rintro rule d ⟨failed, _⟩
      rw [healthy] at failed
      cases failed
  | harmless failed known => exact .inr ⟨other known rfl, said outcome⟩
  | blank failed known => exact .inr ⟨other known rfl, said outcome⟩
  | unknown failed known => exact .inr ⟨other known rfl, said outcome⟩

/-- Where neither the linted file nor the directory has a line feed in its name, all diagnostics of an
output are well-formed and told on one line. Those of the report, and only those, are warnings and
have codes. The one of a failure stands alone, and at the beginning of its file unless the failure is a
syntax error in YAML. -/
theorem interpret_well_formed {target : Target} (file : '\n' ∉ target.name.toList)
    (directory : '\n' ∉ target.directory.text.toList) {output : ToolOutput}
    {found : List Diagnostic}
    (came : (interpret Failure.Table.default target output).outcome = .ok found) {d : Diagnostic}
    (member : d ∈ found) :
    d.WellFormed ∧ '\n' ∉ d.concise.toList ∧
      (d.severity = .warning ↔ FromReport target output d) ∧
      (d.code ≠ none ↔ FromReport target output d) ∧
      (FromReport target output d ∨ ∃ rule, FromFailure target output rule d) ∧
      ∀ rule, FromFailure target output rule d →
        found = [d] ∧ (rule ≠ "yaml-syntax" → d.range = ⟨⟨0, 0⟩, ⟨0, 1⟩⟩) := by
  have reported {e : Diagnostic} (from_report : FromReport target output e) :
      e.WellFormed ∧ e.severity = .warning ∧ e.code ≠ none := by
    obtain ⟨all, read, among⟩ := from_report
    exact Report.diagnostics_formed file directory read among
  rcases interpret_sources came with ⟨rule, e, ⟨failed, text, known⟩, rfl⟩ | ⟨sound, read⟩
  · cases List.mem_singleton.mp member
    obtain ⟨formed, grade, uncoded, anchored⟩ :=
      Failure.Table.default_classified_formed file known
    have unreported : ¬FromReport target output d := fun from_report =>
      grade (reported from_report).2.1
    refine ⟨formed, formed.concise_single, iff_of_false grade unreported,
      iff_of_false (fun coded => coded uncoded) unreported, .inr ⟨rule, failed, text, known⟩, ?_⟩
    rintro rule' ⟨_, text', known'⟩
    cases known.symm.trans known'
    exact ⟨rfl, anchored⟩
  · have from_report : FromReport target output d := ⟨found, read, member⟩
    obtain ⟨formed, warning, coded⟩ := reported from_report
    refine ⟨formed, formed.concise_single, iff_of_true warning from_report,
      iff_of_true coded from_report, .inl from_report, ?_⟩
    intro rule from_failure
    exact absurd from_failure (sound rule d)

/-- What a run leaves that tells its failure over several lines. -/
def scattered : ToolOutput where
  stdout := "b.yml:1: [E301] x"
  stderr := "Syntax Error while loading YAML\nline 3, column 5\n"
  returnCode := some 2
  failure := none

theorem scattered_failure_formed :
    (interpret Failure.Table.default ⟨.ofText "/work/site.yml", .ofText "/work"⟩ scattered).outcome =
      .ok [⟨.error, Failure.yamlSyntaxExcerpt, "/work/site.yml", ⟨⟨2, 4⟩, ⟨2, 5⟩⟩, none⟩] ∧
    '\n' ∉ (⟨.error, Failure.yamlSyntaxExcerpt, "/work/site.yml", ⟨⟨2, 4⟩, ⟨2, 5⟩⟩, none⟩ :
      Diagnostic).concise.toList := by
  have came : (interpret Failure.Table.default ⟨.ofText "/work/site.yml", .ofText "/work"⟩
      scattered).outcome =
      .ok [⟨.error, Failure.yamlSyntaxExcerpt, "/work/site.yml", ⟨⟨2, 4⟩, ⟨2, 5⟩⟩, none⟩] := by rfl
  have formed := interpret_well_formed (by decide +kernel) (by decide +kernel) came
    List.mem_cons_self
  exact ⟨came, formed.2.1⟩

end Linter

end PlaybookLint
