import PlaybookLint.Proofs.Classification

/-!
Tables of failures put together. The rows of a second table are asked only about texts that the first
leaves unknown, so rows at the end take nothing away from a text that is known already, and a row
anywhere matters only for texts that it matches and no row before it does.
-/

namespace PlaybookLint

/-- The pattern matches somewhere in the text. What its groups took is another matter. -/
def Pattern.Matches (p : Pattern) (text : String) : Prop :=
  ∃ marks, p.searchFrom text.toList.toArray 0 (p.placeCount text.toList.toArray.size) = some marks

theorem Pattern.search_eq_none_iff (p : Pattern) (text : String) :
    p.search? text = .ok none ↔ ¬p.Matches text := by
  simp only [Pattern.search?, Pattern.Matches]
  cases p.searchFrom text.toList.toArray 0 (p.placeCount text.toList.toArray.size) with
  | none =>
      constructor
      · rintro _ ⟨marks, found⟩
        cases found
      · exact fun _ => rfl
  | some marks =>
      constructor
      · intro passed
        simp only at passed
        cases taken : marks.allTaken text.toList.toArray p.groups with
        | error fault =>
            rw [taken] at passed
            cases passed
        | ok groups =>
            rw [taken] at passed
            cases passed
      · intro unmatched
        exact absurd ⟨marks, rfl⟩ unmatched

namespace Failure

/-- The row does not pass the text over: its phrase is found there, even where the search breaks off
over what the groups of the phrase took. -/
def Row.Matches (row : Row) (text : String) : Prop := row.find text ≠ .ok none

theorem Row.not_matches_iff (row : Row) (text : String) :
    ¬row.Matches text ↔ row.find text = .ok none := Classical.not_not

/-- A row with a pattern matches what the pattern matches. -/
theorem Row.of_pattern_matches_iff (name : String) (p : Pattern) (handler : Option Handler)
    (text : String) : (Row.ofPattern name p handler).Matches text ↔ p.Matches text := by
  have passed := Pattern.search_eq_none_iff p text
  exact (not_congr passed).trans Classical.not_not

namespace Table

theorem pass_over_iff (rows : Table) (text : String) :
    PassOver rows text ↔ ∀ row ∈ rows, ¬row.Matches text := by
  simp only [PassOver, Row.not_matches_iff]

/-- The first answer, unless it leaves the text unknown; then the second. -/
def orLater (first later : Except HandlerFault Classification) :
    Except HandlerFault Classification :=
  match first with
  | .ok (.unclassified _) => later
  | answer => answer

/-! ### Rows one after the other -/

/-- The search goes on in the second table where it finds nothing in the first. -/
theorem match_append (first later : Table) (text : String) :
    match? text (first ++ later) = (match? text first).bind fun
      | some found => .ok (some found)
      | none => match? text later := by
  induction first with
  | nil => rfl
  | cons row rest ih =>
      rw [List.cons_append, match?, match?]
      cases row.find text with
      | error fault => rfl
      | ok captured =>
          cases captured with
          | some groups => rfl
          | none => exact ih

theorem classify_append (first later : Table) (target : Target) (text : String) :
    (first ++ later).classify target text =
      orLater (first.classify target text) (later.classify target text) := by
  cases spoken : Text.isAllBlank text with
  | true =>
      simp only [classify, spoken, if_true]
      rfl
  | false =>
      simp only [classify, spoken, Bool.false_eq_true, if_false, match_append]
      cases match? text first with
      | error fault => rfl
      | ok found =>
          cases found with
          | none => rfl
          | some found =>
              obtain ⟨row, groups⟩ := found
              cases handles : row.handler with
              | none =>
                  simp only [Except.bind, handles]
                  rfl
              | some handler =>
                  simp only [Except.bind, handles]
                  cases handler.diagnostic target groups text <;> rfl

theorem or_later_known {answer later : Except HandlerFault Classification}
    (known : ∀ detail, answer ≠ .ok (.unclassified detail)) : orLater answer later = answer := by
  cases answer with
  | error fault => rfl
  | ok found =>
      cases found with
      | unclassified detail => exact absurd rfl (known detail)
      | diagnostic rule found detail => rfl
      | benign rule detail => rfl
      | empty => rfl

/-- A row that passes the text over might as well not be there. -/
theorem classify_cons_passed {row : Row} {text : String} (passed : row.find text = .ok none)
    (later : Table) (target : Target) :
    classify (row :: later) target text = later.classify target text := by
  have onward : match? text (row :: later) = match? text later := by
    simp only [match?, passed, bind, Except.bind]
  simp only [classify, onward]

/-! ### What is said of a text -/

/-- What a row that matches can make of a text. -/
inductive Said (text : String) : Except HandlerFault Classification → Prop
  | failed (fault : HandlerFault) : Said text (.error fault)
  | benign (rule : String) : Said text (.ok (.benign rule text))
  | diagnostic (rule : String) (found : Diagnostic) : Said text (.ok (.diagnostic rule found text))

/-- Blank texts are set aside; of the others, those that no row matches are left unknown, and
something is said of the rest. -/
theorem classify_cases (table : Table) (target : Target) (text : String) :
    (Text.isAllBlank text = true ∧ table.classify target text = .ok .empty) ∨
    (Text.isAllBlank text = false ∧ (∀ row ∈ table, ¬row.Matches text) ∧
      table.classify target text = .ok (.unclassified text)) ∨
    (Text.isAllBlank text = false ∧ (∃ row ∈ table, row.Matches text) ∧
      Said text (table.classify target text)) := by
  have verdict := classify_verdict table target text
  generalize table.classify target text = outcome at verdict
  cases verdict with
  | blank blank => exact .inl ⟨blank, rfl⟩
  | unknown spoken passed => exact .inr (.inl ⟨spoken, (pass_over_iff table text).mp passed, rfl⟩)
  | @broken _ row fault spoken settles broke =>
      have matched : row.Matches text := fun passed => nomatch broke.symm.trans passed
      exact .inr (.inr ⟨spoken, ⟨row, List.mem_of_getElem? settles.place, matched⟩, .failed _⟩)
  | @benign _ row groups spoken settles captured harmless =>
      have matched : row.Matches text := fun passed => nomatch captured.symm.trans passed
      exact .inr (.inr ⟨spoken, ⟨row, List.mem_of_getElem? settles.place, matched⟩, .benign _⟩)
  | @handled _ row groups handler spoken settles captured handles =>
      have matched : row.Matches text := fun passed => nomatch captured.symm.trans passed
      refine .inr (.inr ⟨spoken, ⟨row, List.mem_of_getElem? settles.place, matched⟩, ?_⟩)
      cases handler.diagnostic target groups text with
      | error fault => exact .failed fault
      | ok found => exact .diagnostic row.name found

theorem classify_empty_iff (table : Table) (target : Target) (text : String) :
    table.classify target text = .ok .empty ↔ Text.isAllBlank text = true := by
  rcases classify_cases table target text with
    ⟨blank, outcome⟩ | ⟨spoken, _, outcome⟩ | ⟨spoken, _, said⟩
  · simp only [blank, outcome]
  · simp [spoken, outcome]
  · generalize table.classify target text = outcome at said
    cases said <;> simp [spoken]

/-- Exactly the texts that are not blank and that no row matches are left unknown. -/
theorem classify_unclassified_iff (table : Table) (target : Target) (text : String) :
    table.classify target text = .ok (.unclassified text) ↔
      Text.isAllBlank text = false ∧ ∀ row ∈ table, ¬row.Matches text := by
  rcases classify_cases table target text with
    ⟨blank, outcome⟩ | ⟨spoken, unmatched, outcome⟩ | ⟨spoken, ⟨row, among, matched⟩, said⟩
  · simp [blank, outcome]
  · exact ⟨fun _ => ⟨spoken, unmatched⟩, fun _ => outcome⟩
  · constructor
    · intro unknown
      rw [unknown] at said
      cases said
    · rintro ⟨_, unmatched⟩
      exact absurd matched (unmatched row among)

/-- Whatever is said of a text, the text itself is kept. -/
theorem classify_detail {table : Table} {target : Target} {text : String} {c : Classification}
    (outcome : table.classify target text = .ok c) (said : c ≠ .empty) : c.detail = text := by
  rcases classify_cases table target text with ⟨_, other⟩ | ⟨_, _, other⟩ | ⟨_, _, other⟩
  · cases outcome.symm.trans other
    exact absurd rfl said
  · cases outcome.symm.trans other
    rfl
  · rw [outcome] at other
    cases other <;> rfl

theorem classify_escalated_iff (table : Table) (target : Target) (text : String) :
    (∃ c, table.classify target text = .ok c ∧ c.needsEscalation = true) ↔
      Text.isAllBlank text = false ∧ ∀ row ∈ table, ¬row.Matches text := by
  rw [← classify_unclassified_iff table target text]
  constructor
  · rintro ⟨c, outcome, escalates⟩
    cases c with
    | unclassified detail =>
        have verbatim : detail = text := classify_detail outcome nofun
        rw [outcome, verbatim]
    | diagnostic rule found detail => cases escalates
    | benign rule detail => cases escalates
    | empty => cases escalates
  · exact fun unknown => ⟨_, unknown, rfl⟩

theorem diagnostics_present_iff (c : Classification) :
    c.diagnostics ≠ [] ↔ c.kindName = "diagnostic" := by
  cases c with
  | diagnostic rule found detail => simp [Classification.diagnostics, Classification.kindName]
  | benign rule detail => simp [Classification.diagnostics, Classification.kindName]
  | unclassified detail => simp [Classification.diagnostics, Classification.kindName]
  | empty => simp [Classification.diagnostics, Classification.kindName]

/-! ### Rows put in -/

/-- A row that is put into a table makes a difference only to texts that it matches and no row before
it does. -/
theorem matches_of_classify_ne {first later : Table} {row : Row} {target : Target} {text : String}
    (differs : (first ++ row :: later).classify target text ≠
      (first ++ later).classify target text) :
    row.Matches text ∧ ∀ earlier ∈ first, ¬earlier.Matches text := by
  rw [classify_append, classify_append] at differs
  constructor
  · intro passed
    rw [classify_cons_passed passed] at differs
    exact differs rfl
  · rcases classify_cases first target text with ⟨_, empty⟩ | ⟨_, unmatched, _⟩ | ⟨_, _, said⟩
    · rw [empty] at differs
      exact absurd rfl differs
    · exact unmatched
    · have known : ∀ detail, first.classify target text ≠ .ok (.unclassified detail) := by
        intro detail unknown
        rw [unknown] at said
        cases said
      rw [or_later_known known, or_later_known known] at differs
      exact absurd rfl differs

/-- Tables compose. Two tables in a row answer as the first does, unless that leaves the text unknown,
and then as the second does. So rows behind a table change nothing for a text that it knows, a row
anywhere changes something only for texts that it matches and no row before it does, a text is set
aside as empty exactly if it is blank, and is for the user to see exactly if it is not blank and no row
matches it. A diagnostic comes with its own kind only, and the text is kept whatever it is. A row that
has a pattern matches what its pattern does. -/
theorem classify_composes (first later : Table) (target : Target) (text : String) :
    (first ++ later).classify target text =
      orLater (first.classify target text) (later.classify target text) ∧
    (first.classify target text ≠ .ok (.unclassified text) →
      (first ++ later).classify target text = first.classify target text) ∧
    (∀ row : Row, (first ++ row :: later).classify target text ≠
        (first ++ later).classify target text →
      row.Matches text ∧ ∀ earlier ∈ first, ¬earlier.Matches text) ∧
    (first.classify target text = .ok .empty ↔ Text.isAllBlank text = true) ∧
    ((∃ c, first.classify target text = .ok c ∧ c.needsEscalation = true) ↔
      Text.isAllBlank text = false ∧ ∀ row ∈ first, ¬row.Matches text) ∧
    (∀ c, first.classify target text = .ok c →
      (c.diagnostics ≠ [] ↔ c.kindName = "diagnostic") ∧ (c ≠ .empty → c.detail = text)) ∧
    ∀ name (p : Pattern) handler, (Row.ofPattern name p handler).Matches text ↔ p.Matches text := by
  refine ⟨classify_append first later target text, ?_, fun row => matches_of_classify_ne,
    classify_empty_iff first target text, classify_escalated_iff first target text, ?_,
    fun name p handler => Row.of_pattern_matches_iff name p handler text⟩
  · intro known
    rw [classify_append]
    apply or_later_known
    intro detail unknown
    have verbatim : detail = text := classify_detail unknown nofun
    rw [unknown, verbatim] at known
    exact known rfl
  · intro c outcome
    exact ⟨diagnostics_present_iff c, classify_detail outcome⟩

/-- A row of one's own, for a warning that may be passed over. -/
def deprecation : Row where
  name := "deprecation"
  find text := .ok (plain (mentions "DEPRECATION WARNING" text.toList))
  handler := none

/-- The row makes a difference in front of the default table, and none behind it to a text that the
table knows. -/
theorem deprecation_put_in :
    classify (deprecation :: default) ⟨.ofText "/work/site.yml", .ofText "/work"⟩
        "[DEPRECATION WARNING]: old" ≠
      default.classify ⟨.ofText "/work/site.yml", .ofText "/work"⟩ "[DEPRECATION WARNING]: old" ∧
    deprecation.Matches "[DEPRECATION WARNING]: old" ∧
    default.classify ⟨.ofText "/work/site.yml", .ofText "/work"⟩ "DEPRECATION WARNING .dirname" ≠
      .ok (.unclassified "DEPRECATION WARNING .dirname") ∧
    (default ++ [deprecation]).classify ⟨.ofText "/work/site.yml", .ofText "/work"⟩
        "DEPRECATION WARNING .dirname" =
      .ok (.diagnostic "stdin" (.ofFile .info stdinExcerpt stdinLabel)
        "DEPRECATION WARNING .dirname") := by
  have known : default.classify ⟨.ofText "/work/site.yml", .ofText "/work"⟩
      "DEPRECATION WARNING .dirname" = .ok (.diagnostic "stdin"
        (.ofFile .info stdinExcerpt stdinLabel) "DEPRECATION WARNING .dirname") := by rfl
  have unknown : default.classify ⟨.ofText "/work/site.yml", .ofText "/work"⟩
      "[DEPRECATION WARNING]: old" = .ok (.unclassified "[DEPRECATION WARNING]: old") := by rfl
  have harmless : classify (deprecation :: default) ⟨.ofText "/work/site.yml", .ofText "/work"⟩
      "[DEPRECATION WARNING]: old" =
        .ok (.benign "deprecation" "[DEPRECATION WARNING]: old") := by rfl
  have differs : classify (deprecation :: default) ⟨.ofText "/work/site.yml", .ofText "/work"⟩
      "[DEPRECATION WARNING]: old" ≠
        default.classify ⟨.ofText "/work/site.yml", .ofText "/work"⟩
          "[DEPRECATION WARNING]: old" := by
    rw [harmless, unknown]
    nofun
  have recognised : default.classify ⟨.ofText "/work/site.yml", .ofText "/work"⟩
      "DEPRECATION WARNING .dirname" ≠ .ok (.unclassified "DEPRECATION WARNING .dirname") := by
    rw [known]
    nofun
  have composed := classify_composes [] default ⟨.ofText "/work/site.yml", .ofText "/work"⟩
    "[DEPRECATION WARNING]: old"
  have composed' := classify_composes default [deprecation]
    ⟨.ofText "/work/site.yml", .ofText "/work"⟩ "DEPRECATION WARNING .dirname"
  exact ⟨differs, (composed.2.2.1 deprecation differs).1, recognised,
    (composed'.2.1 recognised).trans known⟩

end Table

end Failure

end PlaybookLint
