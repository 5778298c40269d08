import PlaybookLint.Failure.Classification
import PlaybookLint.Proofs.Text

/-!
Classification of failure texts, told by the row that settles it. A row settles a text when it is the
first that does not pass it over; what comes out is decided by that row alone. For the default table
no search breaks off, and of its handlers only the one for YAML can fail, over a number of too many
digits.
-/

namespace PlaybookLint.Failure

namespace Table

/-- The rows pass the text over. -/
def PassOver (rows : Table) (text : String) : Prop := ∀ row ∈ rows, row.find text = .ok none

/-- The row at a place of the table is the first that does not pass the text over. -/
structure Settles (table : Table) (text : String) (index : Nat) (row : Row) : Prop where
  place : table[index]? = some row
  passed : PassOver (table.take index) text

theorem pass_over_cons {row : Row} {rest : Table} {text : String} (here : row.find text = .ok none)
    (later : PassOver rest text) : PassOver (row :: rest) text := by
  intro member among
  rcases List.mem_cons.mp among with same | after
  · rw [same]
    exact here
  · exact later member after

/-- Of two places, the row at the earlier one is among those passed over before the later one. -/
theorem Settles.passes_earlier {table : Table} {text : String} {index : Nat} {row : Row}
    (settles : Settles table text index row) {earlier : Nat} {other : Row}
    (before : earlier < index) (found : table[earlier]? = some other) :
    other.find text = .ok none := by
  apply settles.passed other
  have taken : (table.take index)[earlier]? = some other := by
    rw [List.getElem?_take_of_lt before]
    exact found
  exact List.mem_of_getElem? taken

/-- What the search for the first row comes to. -/
inductive Search (table : Table) (text : String) :
    Except Pattern.BrokenGroup (Option (Row × Groups)) → Prop
  | none (passed : PassOver table text) : Search table text (.ok none)
  | found {index : Nat} {row : Row} {groups : Groups} (settles : Settles table text index row)
      (captured : row.find text = .ok (some groups)) : Search table text (.ok (some (row, groups)))
  | broken {index : Nat} {row : Row} {fault : Pattern.BrokenGroup}
      (settles : Settles table text index row) (broke : row.find text = .error fault) :
      Search table text (.error fault)

theorem settles_head (row : Row) (rest : Table) (text : String) :
    Settles (row :: rest) text 0 row :=
  ⟨rfl, fun _ among => absurd among List.not_mem_nil⟩

theorem Settles.after {row first : Row} {rest : Table} {text : String} {index : Nat}
    (settles : Settles rest text index row) (here : first.find text = .ok none) :
    Settles (first :: rest) text (index + 1) row :=
  ⟨settles.place, pass_over_cons here settles.passed⟩

theorem match_search (table : Table) (text : String) : Search table text (match? text table) := by
  induction table with
  | nil => exact .none fun _ among => absurd among List.not_mem_nil
  | cons row rest ih =>
      cases here : row.find text with
      | error fault =>
          have stopped : match? text (row :: rest) = .error fault := by
            simp only [match?, here, bind, Except.bind]
          rw [stopped]
          exact .broken (settles_head row rest text) here
      | ok captured =>
          cases captured with
          | some groups =>
              have stopped : match? text (row :: rest) = .ok (some (row, groups)) := by
                simp only [match?, here, bind, Except.bind, pure, Except.pure]
              rw [stopped]
              exact .found (settles_head row rest text) here
          | none =>
              have onward : match? text (row :: rest) = match? text rest := by
                simp only [match?, here, bind, Except.bind]
              rw [onward]
              revert ih
              generalize match? text rest = reached
              intro ih
              cases ih with
              | none passed => exact .none (pass_over_cons here passed)
              | found settles captured => exact .found (settles.after here) captured
              | broken settles broke => exact .broken (settles.after here) broke

/-- What a text is classified as, by the row that settles it. -/
inductive Verdict (table : Table) (target : Target) (text : String) :
    Except HandlerFault Classification → Prop
  | blank (blank : Text.isAllBlank text = true) : Verdict table target text (.ok .empty)
  | unknown (spoken : Text.isAllBlank text = false) (passed : PassOver table text) :
      Verdict table target text (.ok (.unclassified text))
  | broken {index : Nat} {row : Row} {fault : Pattern.BrokenGroup}
      (spoken : Text.isAllBlank text = false) (settles : Settles table text index row)
      (broke : row.find text = .error fault) : Verdict table target text (.error (.group fault))
  | benign {index : Nat} {row : Row} {groups : Groups} (spoken : Text.isAllBlank text = false)
      (settles : Settles table text index row) (captured : row.find text = .ok (some groups))
      (harmless : row.handler = none) : Verdict table target text (.ok (.benign row.name text))
  | handled {index : Nat} {row : Row} {groups : Groups} {handler : Handler}
      (spoken : Text.isAllBlank text = false) (settles : Settles table text index row)
      (captured : row.find text = .ok (some groups)) (handles : row.handler = some handler) :
      Verdict table target text
        ((handler.diagnostic target groups text).map (.diagnostic row.name · text))

theorem classify_verdict (table : Table) (target : Target) (text : String) :
    Verdict table target text (table.classify target text) := by
  cases spoken : Text.isAllBlank text with
  | true =>
      simp only [classify, spoken, if_true]
      exact .blank spoken
  | false =>
      simp only [classify, spoken, Bool.false_eq_true, if_false]
      have searched := match_search table text
      revert searched
      generalize match? text table = found
      intro searched
      cases searched with
      | none passed => exact .unknown spoken passed
      | broken settles broke => exact .broken spoken settles broke
      | @found index row groups settles captured =>
          cases handles : row.handler with
          | none =>
              simp only [handles]
              exact .benign spoken settles captured handles
          | some handler =>
              have verdict : Verdict table target text
                  ((handler.diagnostic target groups text).map (.diagnostic row.name · text)) :=
                .handled spoken settles captured handles
              simp only [handles]
              cases made : handler.diagnostic target groups text with
              | error fault =>
                  rw [made] at verdict
                  exact verdict
              | ok diagnostic =>
                  rw [made] at verdict
                  exact verdict

/-- The row that settles a text is the one that the search finds. -/
theorem Settles.match_eq {table : Table} {text : String} {index : Nat} {row : Row} {groups : Groups}
    (settles : Settles table text index row) (captured : row.find text = .ok (some groups)) :
    match? text table = .ok (some (row, groups)) := by
  induction table generalizing index with
  | nil => cases settles.place
  | cons first rest ih =>
      cases index with
      | zero =>
          have same : first = row := Option.some.inj settles.place
          subst same
          simp only [match?, captured, bind, Except.bind, pure, Except.pure]
      | succ index =>
          have here : first.find text = .ok none :=
            settles.passes_earlier (Nat.succ_pos index) rfl
          have deeper : Settles rest text index row :=
            ⟨settles.place, fun later among => settles.passed later (List.mem_cons_of_mem _ among)⟩
          simp only [match?, here, bind, Except.bind]
          exact ih deeper

theorem Settles.classify_benign {table : Table} {text : String} {index : Nat} {row : Row}
    {groups : Groups} (settles : Settles table text index row)
    (captured : row.find text = .ok (some groups)) (harmless : row.handler = none)
    (spoken : Text.isAllBlank text = false) (target : Target) :
    table.classify target text = .ok (.benign row.name text) := by
  simp only [classify, spoken, Bool.false_eq_true, if_false, settles.match_eq captured, harmless]

theorem Settles.classify_failed {table : Table} {text : String} {index : Nat} {row : Row}
    {groups : Groups} {handler : Handler} {target : Target} {fault : HandlerFault}
    (settles : Settles table text index row) (captured : row.find text = .ok (some groups))
    (handles : row.handler = some handler) (spoken : Text.isAllBlank text = false)
    (failed : handler.diagnostic target groups text = .error fault) :
    table.classify target text = .error fault := by
  simp only [classify, spoken, Bool.false_eq_true, if_false, settles.match_eq captured, handles,
    failed]
  rfl

theorem Settles.classify_diagnostic {table : Table} {text : String} {index : Nat} {row : Row}
    {groups : Groups} {handler : Handler} {target : Target} {found : Diagnostic}
    (settles : Settles table text index row) (captured : row.find text = .ok (some groups))
    (handles : row.handler = some handler) (spoken : Text.isAllBlank text = false)
    (made : handler.diagnostic target groups text = .ok found) :
    table.classify target text = .ok (.diagnostic row.name found text) := by
  simp only [classify, spoken, Bool.false_eq_true, if_false, settles.match_eq captured, handles,
    made]
  rfl

end Table

/-! ### The default table -/

/-- The first line and column that a text tells have too many digits to be read. -/
def PlaceTooLong (text : List Char) : Prop :=
  ∃ line column, lineColumn? text = some (line, column) ∧
    (Text.digitLimit < line.length ∨ Text.digitLimit < column.length)

theorem range_of_digits_too_long {line column : List Char}
    (long : Text.digitLimit < line.length ∨ Text.digitLimit < column.length) :
    ∃ refusal, rangeOfDigits (line, column) = .error (.number refusal) := by
  by_cases lineLong : Text.digitLimit < line.length
  · exact ⟨⟨line.length⟩, by simp only [rangeOfDigits, Text.read_number_error lineLong]⟩
  · have columnLong := long.resolve_left lineLong
    refine ⟨⟨column.length⟩, ?_⟩
    simp only [rangeOfDigits, Text.read_number_ok lineLong, Text.read_number_error columnLong]

theorem range_of_digits_readable {line column : List Char}
    (lineShort : ¬Text.digitLimit < line.length) (columnShort : ¬Text.digitLimit < column.length) :
    ∃ range, rangeOfDigits (line, column) = .ok range := by
  refine ⟨.ofReport (Text.digitsValue line) (some (Text.digitsValue column : Int)), ?_⟩
  simp only [rangeOfDigits, Text.read_number_ok lineShort, Text.read_number_ok columnShort]

/-- The handler for YAML fails over a place that is too long, and over nothing else. -/
theorem yaml_diagnostic_too_long (target : Target) {text : List Char} (long : PlaceTooLong text) :
    ∃ refusal, Handler.yamlDiagnostic target text = .error (.number refusal) := by
  obtain ⟨line, column, told, digits⟩ := long
  obtain ⟨refusal, refused⟩ := range_of_digits_too_long digits
  refine ⟨refusal, ?_⟩
  simp only [Handler.yamlDiagnostic, told, refused]
  rfl

theorem yaml_diagnostic_readable (target : Target) {text : List Char} (short : ¬PlaceTooLong text) :
    ∃ found, Handler.yamlDiagnostic target text = .ok found := by
  cases told : lineColumn? text with
  | none =>
      simp only [Handler.yamlDiagnostic, told]
      exact ⟨_, rfl⟩
  | some place =>
      obtain ⟨line, column⟩ := place
      have lineShort : ¬Text.digitLimit < line.length :=
        fun long => short ⟨line, column, told, .inl long⟩
      have columnShort : ¬Text.digitLimit < column.length :=
        fun long => short ⟨line, column, told, .inr long⟩
      obtain ⟨range, read⟩ := range_of_digits_readable lineShort columnShort
      simp only [Handler.yamlDiagnostic, told, read]
      exact ⟨_, rfl⟩

namespace Table

/-- The phrases of the default table are found or not; no search for them breaks off. -/
theorem default_find_ok {row : Row} (member : row ∈ default) (text : String) :
    ∃ captured, row.find text = .ok captured := by
  simp only [default, List.mem_cons, List.not_mem_nil, or_false] at member
  rcases member with rfl | rfl | rfl | rfl | rfl | rfl | rfl <;> exact ⟨_, rfl⟩

/-- A text in which the hint about skipping rules is the only phrase that is known. -/
def OnlyHint (text : String) : Prop :=
  PassOver (default.take 6) text ∧ mentions "You can skip specific rules" text.toList = true

/-- A text that the row for YAML settles, but that tells a place which is too long. -/
def UnreadablePlace (text : String) : Prop :=
  PassOver (default.take 2) text ∧ mentions "Syntax Error while loading YAML" text.toList = true ∧
    PlaceTooLong text.toList

theorem plain_eq_some {found : Bool} {groups : Groups} (captured : plain found = some groups) :
    found = true := by
  cases found with
  | false => cases captured
  | true => rfl

/-- The default table has one row without a handler, the last. -/
theorem default_benign {text : String} {index : Nat} {row : Row} {groups : Groups}
    (settles : Settles default text index row) (captured : row.find text = .ok (some groups))
    (harmless : row.handler = none) : OnlyHint text := by
  have place := settles.place
  match index, place with
  | 0, rfl => cases harmless
  | 1, rfl => cases harmless
  | 2, rfl => cases harmless
  | 3, rfl => cases harmless
  | 4, rfl => cases harmless
  | 5, rfl => cases harmless
  | 6, rfl => exact ⟨settles.passed, plain_eq_some (Except.ok.inj captured)⟩

/-- What the handlers of the default table make of a text that their row settles. -/
theorem default_handled (target : Target) {text : String} {index : Nat} {row : Row} {groups : Groups}
    {handler : Handler} (settles : Settles default text index row)
    (captured : row.find text = .ok (some groups)) (handles : row.handler = some handler) :
    (∃ found, handler.diagnostic target groups text = .ok found) ∨
      UnreadablePlace text ∧
        ∃ refusal, handler.diagnostic target groups text = .error (.number refusal) := by
  have place := settles.place
  match index, place with
  | 0, rfl =>
      cases handles
      have found : findMissingFile text = some groups := Except.ok.inj captured
      simp only [findMissingFile, Option.map_eq_some_iff] at found
      obtain ⟨path, _, same⟩ := found
      subst same
      exact .inl ⟨_, rfl⟩
  | 1, rfl =>
      cases handles
      exact .inl ⟨_, rfl⟩
  | 2, rfl =>
      cases handles
      by_cases long : PlaceTooLong text.toList
      · have mentioned := plain_eq_some (Except.ok.inj captured)
        exact .inr ⟨⟨settles.passed, mentioned, long⟩, yaml_diagnostic_too_long target long⟩
      · exact .inl (yaml_diagnostic_readable target long)
  | 3, rfl =>
      cases handles
      exact .inl ⟨_, rfl⟩
  | 4, rfl =>
      cases handles
      exact .inl ⟨_, rfl⟩
  | 5, rfl =>
      cases handles
      exact .inl ⟨_, rfl⟩
  | 6, rfl => cases handles

/-- Alone, the hint makes a text harmless. -/
theorem classify_only_hint {text : String} (spoken : Text.isAllBlank text = false)
    (hint : OnlyHint text) (target : Target) :
    default.classify target text = .ok (.benign "skip-rules-hint" text) := by
  have settles : Settles default text 6 ⟨"skip-rules-hint", .ok ∘ findSkipHint, none⟩ :=
    ⟨rfl, hint.1⟩
  have captured : findSkipHint text = some [] := by
    simp only [findSkipHint, hint.2, plain, if_true]
  exact settles.classify_benign (congrArg Except.ok captured) rfl spoken target

theorem classify_unreadable_place {text : String} (spoken : Text.isAllBlank text = false)
    (unreadable : UnreadablePlace text) (target : Target) :
    ∃ refusal, default.classify target text = .error (.number refusal) := by
  obtain ⟨passed, mentioned, long⟩ := unreadable
  have settles : Settles default text 2 ⟨"yaml-syntax", .ok ∘ findYamlSyntax, some .yamlSyntax⟩ :=
    ⟨rfl, passed⟩
  have captured : findYamlSyntax text = some [] := by
    simp only [findYamlSyntax, mentioned, plain, if_true]
  obtain ⟨refusal, refused⟩ := yaml_diagnostic_too_long target long
  exact ⟨refusal, settles.classify_failed (congrArg Except.ok captured) rfl spoken refused⟩

/-- All that the default table can make of a text. -/
theorem classify_default_cases (target : Target) (text : String) :
    (Text.isAllBlank text = true ∧ default.classify target text = .ok .empty) ∨
    (Text.isAllBlank text = false ∧ OnlyHint text ∧
      default.classify target text = .ok (.benign "skip-rules-hint" text)) ∨
    (Text.isAllBlank text = false ∧ UnreadablePlace text ∧
      ∃ refusal, default.classify target text = .error (.number refusal)) ∨
    (Text.isAllBlank text = false ∧ default.classify target text = .ok (.unclassified text)) ∨
    (Text.isAllBlank text = false ∧
      ∃ rule found, default.classify target text = .ok (.diagnostic rule found text)) := by
  have verdict := classify_verdict default target text
  revert verdict
  generalize came : default.classify target text = outcome
  intro verdict
  cases verdict with
  | blank blank => exact .inl ⟨blank, rfl⟩
  | unknown spoken passed => exact .inr (.inr (.inr (.inl ⟨spoken, rfl⟩)))
  | broken spoken settles broke =>
      obtain ⟨captured, found⟩ := default_find_ok (List.mem_of_getElem? settles.place) text
      rw [found] at broke
      cases broke
  | benign spoken settles captured harmless =>
      have hint := default_benign settles captured harmless
      rw [classify_only_hint spoken hint] at came
      exact .inr (.inl ⟨spoken, hint, came.symm⟩)
  | handled spoken settles captured handles =>
      rcases default_handled target settles captured handles with
        ⟨found, made⟩ | ⟨unreadable, refusal, refused⟩
      · rw [made]
        exact .inr (.inr (.inr (.inr ⟨spoken, _, found, rfl⟩)))
      · rw [refused]
        exact .inr (.inr (.inl ⟨spoken, unreadable, refusal, rfl⟩))

end Table

end PlaybookLint.Failure
