import Mathlib.Data.List.Forall2
import PlaybookLint.Proofs.Embedding
import PlaybookLint.Proofs.ErrorPlace
import PlaybookLint.Proofs.LineEnds

/-!
What cannot be read. Lines that are no findings are passed over, and texts that no phrase fits are left
as they are, whatever stands in them. The one thing that keeps a report or a failure text from being
read is a number of too many digits where a line or a column is told, and then nothing is read at all.
-/

namespace PlaybookLint

namespace Report

open Finding

/-! ### Reports -/

/-- The line is a finding, and its number has so many digits that it cannot be read. -/
def Overlong (line : List Char) (count : Nat) : Prop :=
  ∃ path number code message, ReadsShortest line path number code message ∧
    Text.digitLimit < number.length ∧ count = number.length

/-- What a line gives on its own: nothing, if it is no finding, or else the one diagnostic for the
shortest way to read it. -/
inductive LineGives (target : Target) (line : List Char) : List Diagnostic → Prop
  | nothing (unread : ∀ path number code message, ¬Reads line path number code message) :
      LineGives target line []
  | finding {path number code message : List Char}
      (reads : ReadsShortest line path number code message)
      (short : number.length ≤ Text.digitLimit) :
      LineGives target line
        [diagnosticOf target line path code message (Text.digitsValue number)]

variable {target : Target} {line : List Char}

theorem LineGives.not_overlong {found : List Diagnostic} (single : '\n' ∉ line)
    (gives : LineGives target line found) (count : Nat) : ¬Overlong line count := by
  rintro ⟨path, number, code, message, reads, long, _⟩
  cases gives with
  | nothing unread => exact unread path number code message reads.1
  | finding reads' short =>
      obtain ⟨_, rfl, _⟩ := reads_shortest_unique single reads reads'
      exact Nat.not_lt.mpr short long

theorem Overlong.count_unique {count count' : Nat} (single : '\n' ∉ line)
    (overlong : Overlong line count) (overlong' : Overlong line count') : count = count' := by
  obtain ⟨_, _, _, _, reads, _, rfl⟩ := overlong
  obtain ⟨_, _, _, _, reads', _, rfl⟩ := overlong'
  obtain ⟨_, rfl, _⟩ := reads_shortest_unique single reads reads'
  rfl

/-- A line that is too long to be read has more characters than that. -/
theorem Overlong.long_line {count : Nat} (overlong : Overlong line count) :
    Text.digitLimit < line.length := by
  obtain ⟨path, number, code, message, ⟨⟨_, s, rfl, tail⟩, _⟩, long, _⟩ := overlong
  obtain ⟨before, after, _, _, rfl⟩ := tail.written
  simp only [List.length_append, List.length_cons]
  omega

/-- A line in front of others either has its say and lets the others have theirs, or is too long and
spoils them all. -/
theorem line_has_say (target : Target) (single : '\n' ∉ line) :
    (∃ found, LineGives target line found ∧ ∀ rest, diagnosticsOfLines target (line :: rest) =
      (diagnosticsOfLines target rest).map (found ++ ·)) ∨
    ∃ count, Overlong line count ∧
      ∀ rest, diagnosticsOfLines target (line :: rest) = .error ⟨count⟩ := by
  cases read : read? line with
  | none =>
      refine .inl ⟨[], .nothing ?_, ?_⟩
      · intro path number code message reads
        obtain ⟨path, number, code, message, shortest⟩ := reads_shortest_exists reads
        have there := (read_eq_some_iff single ⟨path, number, code, message, []⟩).mpr ⟨rfl, shortest⟩
        cases read.symm.trans there
      · intro rest
        rw [diagnosticsOfLines, read]
        cases diagnosticsOfLines target rest <;> rfl
  | some f =>
      obtain ⟨ends, shortest⟩ := (read_eq_some_iff single f).mp read
      obtain ⟨path, number, code, message, _⟩ := f
      cases ends
      by_cases long : Text.digitLimit < number.length
      · refine .inr ⟨number.length, ⟨path, number, code, message, shortest, long, rfl⟩, ?_⟩
        intro rest
        simp only [diagnosticsOfLines, read, diagnostic_of_parts, Text.read_number_error long]
        rfl
      · refine .inl ⟨_, .finding shortest (Nat.not_lt.mp long), ?_⟩
        intro rest
        simp only [diagnosticsOfLines, read, diagnostic_of_parts, Text.read_number_ok long]
        cases diagnosticsOfLines target rest <;> rfl

/-- Of the lines that are too long, the first has so many digits. -/
def FirstOverlong (lines : List (List Char)) (count : Nat) : Prop :=
  ∃ before line after, lines = before ++ line :: after ∧
    (∀ other ∈ before, ∀ n, ¬Overlong other n) ∧ Overlong line count

theorem first_overlong_of_head {rest : List (List Char)} {count : Nat}
    (overlong : Overlong line count) : FirstOverlong (line :: rest) count :=
  ⟨[], line, rest, rfl, fun _ among => absurd among List.not_mem_nil, overlong⟩

theorem first_overlong_cons_iff (single : '\n' ∉ line) (rest : List (List Char)) (count : Nat) :
    FirstOverlong (line :: rest) count ↔
      Overlong line count ∨ (∀ n, ¬Overlong line n) ∧ FirstOverlong rest count := by
  constructor
  · rintro ⟨before, other, after, cut, none, overlong⟩
    cases before with
    | nil =>
        obtain ⟨rfl, rfl⟩ := List.cons.inj cut
        exact .inl overlong
    | cons first before =>
        obtain ⟨rfl, rfl⟩ := List.cons.inj cut
        refine .inr ⟨none line List.mem_cons_self, before, other, after, rfl, ?_, overlong⟩
        exact fun other among => none other (List.mem_cons_of_mem line among)
  · rintro (overlong | ⟨none, before, other, after, rfl, none', overlong⟩)
    · exact first_overlong_of_head overlong
    · refine ⟨line :: before, other, after, rfl, ?_, overlong⟩
      intro earlier among
      rcases List.mem_cons.mp among with rfl | later
      · exact none
      · exact none' earlier later

/-- Lines are spoiled by the first that is too long, and by nothing else. -/
theorem lines_error_iff (target : Target) {lines : List (List Char)}
    (single : ∀ line ∈ lines, '\n' ∉ line) (refusal : Text.TooManyDigits) :
    diagnosticsOfLines target lines = .error refusal ↔ FirstOverlong lines refusal.digits := by
  induction lines with
  | nil =>
      constructor
      · intro broken
        cases broken
      · rintro ⟨before, line, after, cut, _⟩
        cases before <;> cases cut
  | cons line rest ih =>
      have here := single line List.mem_cons_self
      have later := ih fun other among => single other (List.mem_cons_of_mem line among)
      rw [first_overlong_cons_iff here]
      -- A line that has its say is not too long, so the fault and its line both lie in the rest.
      rcases line_has_say target here with ⟨found, gives, goesOn⟩ | ⟨count, overlong, spoiled⟩
      · have readable := gives.not_overlong here
        rw [goesOn, Outcome.map_eq_error_iff, later]
        constructor
        · exact fun first => .inr ⟨readable, first⟩
        · rintro (overlong | ⟨_, first⟩)
          · exact absurd overlong (readable _)
          · exact first
      · rw [spoiled, Except.error.injEq]
        constructor
        · rintro rfl
          exact .inl overlong
        · rintro (overlong' | ⟨none, _⟩)
          · exact congrArg Text.TooManyDigits.mk (overlong.count_unique here overlong')
          · exact absurd overlong (none count)

/-- Where no line is too long, every line has its say, in order. -/
theorem lines_have_say (target : Target) {lines : List (List Char)}
    (single : ∀ line ∈ lines, '\n' ∉ line) (short : ∀ line ∈ lines, ∀ n, ¬Overlong line n) :
    ∃ pieces, List.Forall₂ (LineGives target) lines pieces ∧
      diagnosticsOfLines target lines = .ok pieces.flatten := by
  induction lines with
  | nil => exact ⟨[], .nil, rfl⟩
  | cons line rest ih =>
      obtain ⟨pieces, each, read⟩ := ih
        (fun other among => single other (List.mem_cons_of_mem line among))
        (fun other among => short other (List.mem_cons_of_mem line among))
      rcases line_has_say target (single line List.mem_cons_self) with
        ⟨found, gives, goesOn⟩ | ⟨count, overlong, _⟩
      · refine ⟨found :: pieces, .cons gives each, ?_⟩
        rw [goesOn, read]
        rfl
      · exact absurd overlong (short line List.mem_cons_self count)

theorem diagnostics_error_iff (target : Target) (report : String) (refusal : Text.TooManyDigits) :
    diagnostics target report = .error refusal ↔
      FirstOverlong (Text.splitLines report.toList) refusal.digits :=
  lines_error_iff target (fun _ => Text.feed_not_in_line) refusal

theorem diagnostics_have_say (target : Target) {report : String}
    (short : ∀ line ∈ Text.splitLines report.toList, ∀ n, ¬Overlong line n) :
    ∃ pieces, List.Forall₂ (LineGives target) (Text.splitLines report.toList) pieces ∧
      diagnostics target report = .ok pieces.flatten :=
  lines_have_say target (fun _ => Text.feed_not_in_line) short

end Report

namespace Failure

/-! ### Failure texts -/

/-- The line, or else the column, has so many digits that it cannot be read. -/
def OverlongPlace (place : List Char × List Char) (count : Nat) : Prop :=
  Text.digitLimit < place.1.length ∧ count = place.1.length ∨
    ¬Text.digitLimit < place.1.length ∧ Text.digitLimit < place.2.length ∧ count = place.2.length

theorem range_of_digits_error_iff (place : List Char × List Char) (fault : HandlerFault) :
    rangeOfDigits place = .error fault ↔
      ∃ count, OverlongPlace place count ∧ fault = .number ⟨count⟩ := by
  by_cases lineLong : Text.digitLimit < place.1.length
  · have refused : rangeOfDigits place = .error (.number ⟨place.1.length⟩) := by
      simp only [rangeOfDigits, Text.read_number_error lineLong]
    rw [refused, Except.error.injEq]
    constructor
    · rintro rfl
      exact ⟨_, .inl ⟨lineLong, rfl⟩, rfl⟩
    · rintro ⟨count, ⟨_, rfl⟩ | ⟨short, _⟩, rfl⟩
      · rfl
      · exact absurd lineLong short
  · by_cases columnLong : Text.digitLimit < place.2.length
    · have refused : rangeOfDigits place = .error (.number ⟨place.2.length⟩) := by
        simp only [rangeOfDigits, Text.read_number_ok lineLong, Text.read_number_error columnLong]
      rw [refused, Except.error.injEq]
      constructor
      · rintro rfl
        exact ⟨_, .inr ⟨lineLong, columnLong, rfl⟩, rfl⟩
      · rintro ⟨count, ⟨long, _⟩ | ⟨_, _, rfl⟩, rfl⟩
        · exact absurd long lineLong
        · rfl
    · obtain ⟨range, read⟩ := range_of_digits_readable lineLong columnLong
      have read' : rangeOfDigits place = .ok range := read
      rw [read']
      constructor
      · intro broken
        cases broken
      · rintro ⟨count, ⟨long, _⟩ | ⟨_, long, _⟩, _⟩
        · exact absurd long lineLong
        · exact absurd long columnLong

theorem yaml_diagnostic_error_iff (target : Target) (text : List Char) (fault : HandlerFault) :
    Handler.yamlDiagnostic target text = .error fault ↔
      ∃ place count, First Places text place ∧ OverlongPlace place count ∧
        fault = .number ⟨count⟩ := by
  simp only [← line_column_eq_some_iff]
  rw [yaml_diagnostic_eq, Outcome.map_eq_error_iff]
  cases lineColumn? text with
  | none =>
      rw [Option.elim_none]
      constructor
      · intro broken
        cases broken
      · rintro ⟨place, count, told, _⟩
        cases told
  | some place =>
      rw [Option.elim_some, range_of_digits_error_iff]
      constructor
      · rintro ⟨count, overlong, same⟩
        exact ⟨place, count, rfl, overlong, same⟩
      · rintro ⟨place', count, told, overlong, same⟩
        cases told
        exact ⟨count, overlong, same⟩

namespace Table

/-- A text that the row for YAML settles is what its handler makes of it. -/
theorem classify_yaml {text : String} (passed : PassOver (default.take 2) text)
    (mentioned : mentions "Syntax Error while loading YAML" text.toList = true) (target : Target) :
    default.classify target text =
      (Handler.yamlDiagnostic target text.toList).map (.diagnostic "yaml-syntax" · text) := by
  have spoken : Text.isAllBlank text = false :=
    spoken_of_mentioned 'S' (by decide) (by decide) mentioned
  have settles : Settles default text 2 ⟨"yaml-syntax", .ok ∘ findYamlSyntax, some .yamlSyntax⟩ :=
    ⟨rfl, passed⟩
  have captured : findYamlSyntax text = some [] := by
    simp only [findYamlSyntax, mentioned, plain, if_true]
  simp only [classify, spoken, Bool.false_eq_true, if_false,
    settles.match_eq (congrArg Except.ok captured), Handler.yamlSyntax]
  cases Handler.yamlDiagnostic target text.toList <;> rfl

/-- A failure text cannot be classified exactly if the row for YAML settles it and the place that it
tells first is too long. -/
theorem classify_error_iff (target : Target) (text : String) (fault : HandlerFault) :
    default.classify target text = .error fault ↔
      PassOver (default.take 2) text ∧
        mentions "Syntax Error while loading YAML" text.toList = true ∧
        ∃ place count, First Places text.toList place ∧ OverlongPlace place count ∧
          fault = .number ⟨count⟩ := by
  constructor
  · intro broken
    have unreadable : UnreadablePlace text := by
      rcases classify_default_cases target text with
        ⟨_, known⟩ | ⟨_, _, known⟩ | ⟨_, unreadable, _⟩ | ⟨_, known⟩ | ⟨_, rule, found, known⟩
      · cases broken.symm.trans known
      · cases broken.symm.trans known
      · exact unreadable
      · cases broken.symm.trans known
      · cases broken.symm.trans known
    obtain ⟨passed, mentioned, _⟩ := unreadable
    rw [classify_yaml passed mentioned, Outcome.map_eq_error_iff, yaml_diagnostic_error_iff] at broken
    exact ⟨passed, mentioned, broken⟩
  · rintro ⟨passed, mentioned, overlong⟩
    rw [classify_yaml passed mentioned, Outcome.map_eq_error_iff, yaml_diagnostic_error_iff]
    exact overlong

end Table

end Failure

namespace Linter

/-- What keeps tool output from being read is a number of too many digits, and nothing else. A report
is spoiled by the first line that is a finding with such a number; where there is none, every line has
its say, and the lines that are no findings cost the others nothing. A failure text is spoiled by the
place that it tells first, if it is about YAML and the line or the column of that place is too long;
every other text is classified. -/
theorem output_unread_iff (target : Target) :
    (∀ report refusal, Report.diagnostics target report = .error refusal ↔
      Report.FirstOverlong (Text.splitLines report.toList) refusal.digits) ∧
    (∀ report : String,
      (∀ line ∈ Text.splitLines report.toList, ∀ n, ¬Report.Overlong line n) →
        ∃ pieces, List.Forall₂ (Report.LineGives target) (Text.splitLines report.toList) pieces ∧
          Report.diagnostics target report = .ok pieces.flatten) ∧
    ∀ text fault, Failure.Table.default.classify target text = .error fault ↔
      Failure.Table.PassOver (Failure.Table.default.take 2) text ∧
        Failure.mentions "Syntax Error while loading YAML" text.toList = true ∧
        ∃ place count, Failure.First Failure.Places text.toList place ∧
          Failure.OverlongPlace place count ∧ fault = .number ⟨count⟩ :=
  ⟨Report.diagnostics_error_iff target, fun _ => Report.diagnostics_have_say target,
    Failure.Table.classify_error_iff target⟩

/-- A line with no number where one is expected costs the finding behind it nothing. -/
theorem garbled_line_costs_nothing :
    (∀ line ∈ Text.splitLines "a.yml:x: [E1] x\nb.yml:7: [E301] names".toList,
      ∀ n, ¬Report.Overlong line n) ∧
    ∃ pieces, List.Forall₂ (Report.LineGives ⟨.ofText "/work/site.yml", .ofText "/work"⟩)
        (Text.splitLines "a.yml:x: [E1] x\nb.yml:7: [E301] names".toList) pieces ∧
      pieces.flatten =
        [⟨.warning, "names", "/work/b.yml", ⟨⟨6, 0⟩, ⟨6, 1⟩⟩, some "E301"⟩] := by
  have lengths : ∀ line ∈ Text.splitLines "a.yml:x: [E1] x\nb.yml:7: [E301] names".toList,
      line.length ≤ Text.digitLimit := by decide
  have short : ∀ line ∈ Text.splitLines "a.yml:x: [E1] x\nb.yml:7: [E301] names".toList,
      ∀ n, ¬Report.Overlong line n :=
    fun line among _ overlong => Nat.not_lt.mpr (lengths line among) overlong.long_line
  obtain ⟨pieces, each, read⟩ :=
    (output_unread_iff ⟨.ofText "/work/site.yml", .ofText "/work"⟩).2.1 _ short
  have found : Report.diagnostics ⟨.ofText "/work/site.yml", .ofText "/work"⟩
      "a.yml:x: [E1] x\nb.yml:7: [E301] names" =
      .ok [⟨.warning, "names", "/work/b.yml", ⟨⟨6, 0⟩, ⟨6, 1⟩⟩, some "E301"⟩] := by rfl
  exact ⟨short, pieces, each, Except.ok.inj (read.symm.trans found)⟩

/-- A finding with a line of so many digits. -/
def findingAt (number : List Char) : List Char :=
  "a.yml".toList ++ ':' :: (number ++ ": [E502] long lines".toList)

theorem finding_at_read {number : List Char} (filled : number ≠ [])
    (decimal : ∀ c ∈ number, Text.isDecimalDigit c = true) :
    Finding.ReadsShortest (findingAt number) "a.yml".toList number "E502".toList
      "long lines".toList := by
  apply Finding.reads_shortest_of_unmarked (by decide)
    (Report.unmarked_of_no_bracket (by decide))
  refine ⟨filled, decimal, by decide, ?_, ' ', ' ', by decide, by decide, rfl⟩
  exact (Finding.bare_iff "E502".toList).mp (List.all_eq_true.mp (by decide))

theorem finding_at_single {number : List Char}
    (decimal : ∀ c ∈ number, Text.isDecimalDigit c = true) : '\n' ∉ findingAt number := by
  have noDigit : Text.isDecimalDigit '\n' = false := by decide +kernel
  have absent : '\n' ∉ number := by
    intro among
    rw [decimal _ among] at noDigit
    cases noDigit
  rw [findingAt]
  simp only [List.mem_append, List.mem_cons, absent, false_or]
  decide

theorem finding_at_last (number : List Char) : (findingAt number).getLast? = some 's' := by
  have last : ": [E502] long lines".toList.getLast? = some 's' := by decide
  have inside : (':' :: (number ++ ": [E502] long lines".toList)).getLast? = some 's' := by
    rw [← List.cons_append, List.getLast?_append, last, Option.some_or]
  rw [findingAt, List.getLast?_append, inside, Option.some_or]

/-- The first line, told with so many zeros in front that it cannot be read, costs the findings on the
other lines, and a failure text its classification. -/
theorem long_line_costs_others :
    Report.diagnostics ⟨.ofText "/work/site.yml", .ofText "/work"⟩ "b.yml:7: [E301] names" =
        .ok [⟨.warning, "names", "/work/b.yml", ⟨⟨6, 0⟩, ⟨6, 1⟩⟩, some "E301"⟩] ∧
      Report.diagnostics ⟨.ofText "/work/site.yml", .ofText "/work"⟩
          (String.ofList (findingAt (List.replicate 4300 '0' ++ ['1'])) ++ "\n" ++
            "b.yml:7: [E301] names") = .error ⟨(List.replicate 4300 '0' ++ ['1']).length⟩ ∧
      Failure.Table.default.classify ⟨.ofText "/work/site.yml", .ofText "/work"⟩
          (String.ofList (Failure.Table.yamlErrorAt (List.replicate 4300 '0' ++ ['1']))) =
        .error (.number ⟨(List.replicate 4300 '0' ++ ['1']).length⟩) := by
  have decimal := Failure.Table.long_one_decimal
  have long := Failure.Table.long_one_too_long
  generalize List.replicate 4300 '0' ++ ['1'] = number at decimal long ⊢
  have filled : number ≠ [] := List.ne_nil_of_length_pos (Nat.zero_lt_of_lt long)
  refine ⟨by rfl, ?_, ?_⟩
  · have spoiled : Report.diagnostics ⟨.ofText "/work/site.yml", .ofText "/work"⟩
        (String.ofList (findingAt number)) = .error ⟨number.length⟩ := by
      rw [Report.diagnostics_read (finding_at_single decimal) (finding_at_read filled decimal)]
      exact if_pos long
    have apart : (String.ofList (findingAt number)).toList.getLast? ≠ some '\r' := by
      rw [String.toList_ofList, finding_at_last]
      decide
    have ends : ∀ rest, Text.splitLines ("\n".toList ++ rest) = [] :: Text.splitLines rest :=
      Text.split_lines_feed
    rw [Report.diagnostics_joined _ ends fun last => absurd last apart, spoiled]
    rfl
  · obtain ⟨passed, mentioned, _⟩ := Failure.Table.yaml_error_at_unreadable decimal long
    rw [Failure.Table.classify_error_iff]
    refine ⟨passed, mentioned, (number, ['1']), number.length, ?_, .inl ⟨long, rfl⟩, rfl⟩
    rw [String.toList_ofList]
    exact Failure.first_of_here (Failure.Table.yaml_error_at_places decimal filled)

end Linter

end PlaybookLint
