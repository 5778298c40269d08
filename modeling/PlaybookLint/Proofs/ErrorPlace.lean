import PlaybookLint.Proofs.Embedding
import PlaybookLint.Proofs.Outcome
import PlaybookLint.Proofs.Phrase

/-!
The place of an error in YAML. Its file and its position are told by two phrases, and each is looked
for on its own in the whole text. They belong together where the sentence that tells both is the first
to tell either.
-/

namespace PlaybookLint

namespace Failure

/-! ### What a text tells -/

/-- The file that a text tells first. -/
def TellsFile (text file : List Char) : Prop :=
  First (Encloses errorFileOpening errorFileClosing) text file

/-- The line and the column that a text tells first. -/
def TellsPlace (text line column : List Char) : Prop :=
  First Places text (line, column)

/-- The column at a line and a column that are counted from one; zero counts as one. -/
def rangeTold (line column : List Char) : Range :=
  ⟨⟨Text.digitsValue line - 1, Text.digitsValue column - 1⟩,
    ⟨Text.digitsValue line - 1, Text.digitsValue column - 1 + 1⟩⟩

theorem range_of_report (line column : Nat) :
    Range.ofReport (line : Int) (some (column : Int)) =
      ⟨⟨line - 1, column - 1⟩, ⟨line - 1, column - 1 + 1⟩⟩ := by
  have before : ((line : Int) - 1).toNat = line - 1 := by omega
  match column with
  | 0 =>
      have first : Range.ofReport (line : Int) (some ((0 : Nat) : Int)) =
        ⟨⟨((line : Int) - 1).toNat, 0⟩, ⟨((line : Int) - 1).toNat, 0 + 1⟩⟩ := rfl
      rw [first, before]
  | column + 1 =>
      have later : Range.ofReport (line : Int) (some ((column + 1 : Nat) : Int)) =
        ⟨⟨((line : Int) - 1).toNat, (((column + 1 : Nat) : Int) - 1).toNat⟩,
          ⟨((line : Int) - 1).toNat, (((column + 1 : Nat) : Int) - 1).toNat + 1⟩⟩ := rfl
      have above : (((column + 1 : Nat) : Int) - 1).toNat = column + 1 - 1 := by omega
      rw [later, before, above]

theorem range_of_digits_told {line column : List Char} {range : Range}
    (read : rangeOfDigits (line, column) = .ok range) : range = rangeTold line column := by
  by_cases long : Text.digitLimit < line.length ∨ Text.digitLimit < column.length
  · obtain ⟨refusal, refused⟩ := range_of_digits_too_long long
    rw [refused] at read
    cases read
  · rw [not_or] at long
    simp only [rangeOfDigits, Text.read_number_ok long.1, Text.read_number_ok long.2] at read
    cases read
    exact range_of_report _ _

/-- The file and the position of a diagnostic, each as the text tells it first, or, where the text
does not tell it at all, the linted file and the first column. -/
structure Located (target : Target) (text : List Char) (d : Diagnostic) : Prop where
  file : (∃ file, TellsFile text file ∧ d.file = String.ofList file) ∨
    Silent (Encloses errorFileOpening errorFileClosing) text ∧ d.file = target.name
  position : (∃ line column, TellsPlace text line column ∧ d.range = rangeTold line column) ∨
    Silent Places text ∧ d.range = ⟨⟨0, 0⟩, ⟨0, 1⟩⟩

theorem error_file_told {text file : List Char} :
    errorFile? text = some file ↔ TellsFile text file :=
  between_eq_some_iff _ _ _ _

/-- The diagnostic for a syntax error in YAML at a range, with its file as the text tells it. -/
def yamlErrorIn (target : Target) (text : List Char) (range : Range) : Diagnostic :=
  ⟨.error, yamlSyntaxExcerpt, (errorFile? text).elim target.name String.ofList, range, none⟩

/-- The file and the position are found independently of each other. -/
theorem yaml_diagnostic_eq (target : Target) (text : List Char) :
    Handler.yamlDiagnostic target text =
      ((lineColumn? text).elim (.ok Range.fileStart) rangeOfDigits).map
        (yamlErrorIn target text) := by
  rw [Handler.yamlDiagnostic]
  delta yamlErrorIn
  cases lineColumn? text with
  | none => cases errorFile? text <;> rfl
  | some place =>
      simp only [Option.elim_some]
      cases rangeOfDigits place <;> cases errorFile? text <;> rfl

theorem yaml_diagnostic_located {target : Target} {text : List Char} {d : Diagnostic}
    (made : Handler.yamlDiagnostic target text = .ok d) : Located target text d := by
  rw [yaml_diagnostic_eq] at made
  obtain ⟨range, placed, rfl⟩ := Outcome.map_ok made
  constructor
  · cases told : errorFile? text with
    | some file =>
        have named : (yamlErrorIn target text range).file = String.ofList file := by
          rw [yamlErrorIn, told, Option.elim_some]
        exact .inl ⟨file, error_file_told.mp told, named⟩
    | none =>
        have named : (yamlErrorIn target text range).file = target.name := by
          rw [yamlErrorIn, told, Option.elim_none]
        exact .inr ⟨(first_place_eq_none_iff (between_here_eq_some_iff _ _) text).mp told, named⟩
  · cases told : lineColumn? text with
    | some place =>
        rw [told] at placed
        exact .inl ⟨place.1, place.2, (line_column_eq_some_iff text place).mp told,
          range_of_digits_told placed⟩
    | none =>
        rw [told] at placed
        refine .inr ⟨(first_place_eq_none_iff line_column_here_eq_some_iff text).mp told, ?_⟩
        exact (Except.ok.inj placed).symm

theorem Located.file_of_told {target : Target} {text file : List Char} {d : Diagnostic}
    (located : Located target text d) (told : TellsFile text file) : d.file = String.ofList file := by
  rcases located.file with ⟨other, told', named⟩ | ⟨silent, _⟩
  · have same := (error_file_told.mpr told).symm.trans (error_file_told.mpr told')
    rw [named, Option.some.inj same]
  · obtain ⟨before, rest, cut, encloses, _⟩ := told
    exact absurd encloses (silent before rest file cut)

theorem Located.range_of_told {target : Target} {text line column : List Char} {d : Diagnostic}
    (located : Located target text d) (told : TellsPlace text line column) :
    d.range = rangeTold line column := by
  rcases located.position with ⟨line', column', told', placed⟩ | ⟨silent, _⟩
  · have same := ((line_column_eq_some_iff text (line, column)).mpr told).symm.trans
      ((line_column_eq_some_iff text (line', column')).mpr told')
    cases same
    exact placed
  · obtain ⟨before, rest, cut, places, _⟩ := told
    exact absurd places (silent before rest (line, column) cut)

/-! ### The sentence that tells both -/

/-- The beginning of the sentence, up to the line. -/
def naming (file : List Char) : List Char :=
  errorFileOpening.toList ++ (file ++ (errorFileClosing.toList ++ " ".toList))

/-- The end of the sentence, from the line on. -/
def placing (line column : List Char) : List Char :=
  "line ".toList ++ (line ++ (", column ".toList ++ column))

/-- A text in which the sentence is the first to tell a file and the first to tell a place, and in
which nothing behind it on its line could close the name of the file once more. -/
structure Undisturbed (before file line column after : List Char) : Prop where
  single : '\n' ∉ file
  numbered : line ≠ [] ∧ column ≠ []
  decimal : (∀ c ∈ line, Text.isDecimalDigit c = true) ∧ ∀ c ∈ column, Text.isDecimalDigit c = true
  ends : ∀ c, after.head? = some c → Text.isDecimalDigit c = false
  noFile : NoneBegins (Encloses errorFileOpening errorFileClosing) before
    (naming file ++ (placing line column ++ after))
  noPlace : NoneBegins Places (before ++ naming file)
    (placing line column ++ after)
  closed : ∀ taken more, '\n' ∉ taken → after ≠ taken ++ (errorFileClosing.toList ++ more)

variable {before file line column after : List Char}

theorem Undisturbed.quote_not_in_place (undisturbed : Undisturbed before file line column after) :
    '\'' ∉ ':' :: (" ".toList ++ placing line column) := by
  have noDigit : Text.isDecimalDigit '\'' = false := by decide +kernel
  have noLine : '\'' ∉ line := by
    intro among
    rw [undisturbed.decimal.1 _ among] at noDigit
    cases noDigit
  have noColumn : '\'' ∉ column := by
    intro among
    rw [undisturbed.decimal.2 _ among] at noDigit
    cases noDigit
  simp only [placing, List.mem_cons, List.mem_append, noLine, noColumn, or_false, false_or]
  decide

theorem Undisturbed.encloses (undisturbed : Undisturbed before file line column after) :
    Encloses errorFileOpening errorFileClosing (naming file ++ (placing line column ++ after))
      file := by
  refine ⟨undisturbed.single, ⟨" ".toList ++ (placing line column ++ after), ?_⟩, ?_⟩
  · simp only [naming, List.append_assoc]
  · intro other more single written
    simp only [naming, List.append_assoc] at written
    have same := List.append_cancel_left written
    rw [← Nat.not_lt]
    intro longer
    -- What closes a longer name begins with a quote, and the next quote stands behind the sentence.
    rcases List.append_eq_append_iff.mp same with ⟨beyond, reach, cut⟩ | ⟨_, short, _⟩
    · have quoted : '\'' :: (':' :: (" ".toList ++ placing line column) ++ after) =
          beyond ++ '\'' :: (':' :: more) := by
        rw [List.cons_append, List.append_assoc]
        exact cut
      cases beyond with
      | nil =>
          rw [reach, List.append_nil] at longer
          exact Nat.lt_irrefl _ longer
      | cons quote beyond =>
          obtain ⟨taken, far, rest⟩ :=
            beyond_of_not_mem undisturbed.quote_not_in_place (List.cons.inj quoted).2
          refine undisturbed.closed taken more ?_ rest
          intro among
          apply single
          rw [reach, far]
          exact List.mem_append_right file
            (List.mem_cons_of_mem quote (List.mem_append_right _ among))
    · rw [short, List.length_append] at longer
      omega

theorem Undisturbed.places (undisturbed : Undisturbed before file line column after) :
    Places (placing line column ++ after) (line, column) := by
  refine ⟨undisturbed.numbered, undisturbed.decimal, ' ', ' ', ' ', after, by decide, by decide,
    by decide, undisturbed.ends, ?_⟩
  simp only [placing, List.append_assoc]
  rfl

/-- An undisturbed sentence tells both. -/
theorem Undisturbed.told (undisturbed : Undisturbed before file line column after) :
    TellsFile (before ++ (naming file ++ (placing line column ++ after))) file ∧
      TellsPlace (before ++ (naming file ++ (placing line column ++ after))) line column := by
  refine ⟨first_of_none_begins undisturbed.noFile undisturbed.encloses, ?_⟩
  rw [← List.append_assoc]
  exact first_of_none_begins undisturbed.noPlace undisturbed.places

namespace Table

theorem yaml_syntax_made {target : Target} {text detail : String} {d : Diagnostic}
    (known : default.classify target text = .ok (.diagnostic "yaml-syntax" d detail)) :
    Handler.yamlDiagnostic target text.toList = .ok d := by
  have verdict := classify_verdict default target text
  generalize outcome : default.classify target text = said at verdict
  rw [known] at outcome
  cases verdict with
  | blank blank => cases outcome
  | unknown spoken passed => cases outcome
  | broken spoken settles broke => cases outcome
  | benign spoken settles captured harmless => cases outcome
  | @handled index row groups handler spoken settles captured handles =>
      obtain ⟨diagnostic, made, same⟩ := Outcome.map_ok outcome.symm
      obtain ⟨named, rfl, _⟩ := Classification.diagnostic.inj same
      have third : default.findIdx (·.name == "yaml-syntax") = 2 := by decide
      have index_eq := default_find_name settles.place
      rw [named, third] at index_eq
      subst index_eq
      cases settles.place
      cases handles
      exact made

/-- The file and the position of an error in YAML are told by the first phrase for each in the whole
text, and replaced by the linted file and the first column exactly where the text has no such phrase.
Both come from one sentence where nothing of either kind begins before it and nothing behind it on its
line closes the name of the file again. -/
theorem yaml_syntax_located {target : Target} {text detail : String} {d : Diagnostic}
    (known : default.classify target text = .ok (.diagnostic "yaml-syntax" d detail)) :
    Located target text.toList d ∧
      ∀ before file line column after,
        text.toList = before ++ (naming file ++ (placing line column ++ after)) →
        Undisturbed before file line column after →
        d.file = String.ofList file ∧ d.range = rangeTold line column := by
  have located := yaml_diagnostic_located (yaml_syntax_made known)
  refine ⟨located, ?_⟩
  intro before file line column after written undisturbed
  obtain ⟨named, placed⟩ := undisturbed.told
  rw [← written] at named placed
  exact ⟨located.file_of_told named, located.range_of_told placed⟩

/-- The message in front of the sentence and the advice behind it leave it undisturbed. -/
theorem place_behind_message :
    ∃ text d, default.classify ⟨.ofText "/work/site.yml", .ofText "/work"⟩ text =
        .ok (.diagnostic "yaml-syntax" d text) ∧
      Undisturbed "Syntax Error while loading YAML.\n".toList "/work/web.yml".toList
        "4".toList "9".toList ", but\nmaybe elsewhere".toList ∧
      d.file = "/work/web.yml" ∧ d.range = ⟨⟨3, 8⟩, ⟨3, 9⟩⟩ := by
  have undisturbed : Undisturbed "Syntax Error while loading YAML.\n".toList
      "/work/web.yml".toList "4".toList "9".toList ", but\nmaybe elsewhere".toList := by
    have digit (c : Char) (known : c = '4' ∨ c = '9') : Text.isDecimalDigit c = true := by
      rcases known with rfl | rfl
      · decide +kernel
      · decide +kernel
    refine ⟨by decide, by decide, ⟨?_, ?_⟩, ?_, ?_, ?_, ?_⟩
    · exact fun c among => digit c (.inl (List.mem_singleton.mp among))
    · exact fun c among => digit c (.inr (List.mem_singleton.mp among))
    · intro c first
      cases first
      decide +kernel
    · apply none_begins_of_nowhere (between_here_eq_some_iff _ _)
      decide +kernel
    · apply none_begins_of_nowhere line_column_here_eq_some_iff
      decide +kernel
    · intro taken more _ written
      have absent : '\'' ∉ ", but\nmaybe elsewhere".toList := by decide
      rw [written] at absent
      exact absent (List.mem_append_right taken List.mem_cons_self)
  obtain ⟨text, written, known⟩ : ∃ text : String,
      text.toList = "Syntax Error while loading YAML.\n".toList ++
        (naming "/work/web.yml".toList ++
          (placing "4".toList "9".toList ++ ", but\nmaybe elsewhere".toList)) ∧
      default.classify ⟨.ofText "/work/site.yml", .ofText "/work"⟩ text = .ok (.diagnostic
        "yaml-syntax" ⟨.error, yamlSyntaxExcerpt, "/work/web.yml", ⟨⟨3, 8⟩, ⟨3, 9⟩⟩, none⟩
        text) :=
    ⟨"Syntax Error while loading YAML.\nThe error appears to be in " ++
      "'/work/web.yml': line 4, column 9, but\nmaybe elsewhere", by decide +kernel,
      Outcome.ok_of_to_option (by decide +kernel)⟩
  exact ⟨text, _, known, undisturbed,
    (yaml_syntax_located known).2 _ _ _ _ _ written undisturbed⟩

/-- A place that is told before the sentence counts, though it says nothing about the file that the
sentence tells. -/
theorem place_of_another_sentence :
    ∃ text d, default.classify ⟨.ofText "/work/site.yml", .ofText "/work"⟩ text =
        .ok (.diagnostic "yaml-syntax" d text) ∧
      text.toList = "Syntax Error while loading YAML, line 7, column 3\n".toList ++
        (naming "/work/a.yml".toList ++ (placing "2".toList "5".toList ++ [])) ∧
      '\n' ∉ "/work/a.yml".toList ∧ '\'' ∉ "/work/a.yml".toList ∧
      NoneBegins (Encloses errorFileOpening errorFileClosing)
        "Syntax Error while loading YAML, line 7, column 3\n".toList
        (naming "/work/a.yml".toList ++ (placing "2".toList "5".toList ++ [])) ∧
      d.file = "/work/a.yml" ∧ d.range = ⟨⟨6, 2⟩, ⟨6, 3⟩⟩ ∧
      d.range ≠ rangeTold "2".toList "5".toList := by
  refine ⟨"Syntax Error while loading YAML, line 7, column 3\n" ++
      "The error appears to be in '/work/a.yml': line 2, column 5",
    ⟨.error, yamlSyntaxExcerpt, "/work/a.yml", ⟨⟨6, 2⟩, ⟨6, 3⟩⟩, none⟩,
    Outcome.ok_of_to_option (by decide +kernel), by decide +kernel, by decide, by decide, ?_, rfl,
    rfl, by decide +kernel⟩
  apply none_begins_of_nowhere (between_here_eq_some_iff _ _)
  decide +kernel

end Table

end Failure

end PlaybookLint
