import PlaybookLint.Proofs.Composition
import PlaybookLint.Proofs.Outcome
import PlaybookLint.Proofs.Phrase
import PlaybookLint.Proofs.Surfacing

/-!
Failure texts inside longer ones. Every phrase of the default table that is found in a text is found
in all texts around it, so more text can only bring in a row that stands earlier. What is said of the
longer text is as specific as what is said of its part, unless the longer text brings along a place
that is too long to be read.
-/

namespace PlaybookLint

namespace Failure

variable {α : Type}

/-! ### Phrases in longer texts -/

/-- What is found at the beginning of a text is found there whatever follows. -/
def Grows (here : List Char → Option α) : Prop :=
  ∀ text after, (here text).isSome = true → (here (text ++ after)).isSome = true

theorem first_place_embedded {here : List Char → Option α} (grows : Grows here) {text : List Char}
    (found : (firstPlace here text).isSome = true) (before after : List Char) :
    (firstPlace here (before ++ (text ++ after))).isSome = true := by
  obtain ⟨inner, rest, rfl, there⟩ := (first_place_is_some_iff here text).mp found
  rw [first_place_is_some_iff]
  exact ⟨before ++ inner, rest ++ after, by simp only [List.append_assoc], grows rest after there⟩

theorem between_here_grows (opening closing : String) : Grows (betweenHere opening closing) := by
  intro text after found
  obtain ⟨taken, more, single, rfl⟩ := (between_here_is_some_iff opening closing text).mp found
  rw [between_here_is_some_iff]
  exact ⟨taken, more ++ after, single, by simp only [List.append_assoc]⟩

theorem unreadable_here_is_some_iff (text : List Char) :
    (unreadableHere text).isSome = true ↔
      (betweenHere "the file_name " " does not exist, or is not readable" text).isSome = true ∨
      (betweenHere "Could not find or access '" "'" text).isSome = true ∨
      (betweenHere "error occurred while trying to read the file '" "':" text).isSome = true := by
  simp only [unreadableHere, Option.orElse_eq_orElse, Option.orElse_eq_or, Option.isSome_or,
    Option.isSome_map, Bool.or_eq_true]

theorem unreadable_here_grows : Grows unreadableHere := by
  intro text after found
  rw [unreadable_here_is_some_iff] at found ⊢
  exact found.imp (between_here_grows _ _ text after)
    (Or.imp (between_here_grows _ _ text after) (between_here_grows _ _ text after))

theorem mentions_embedded {phrase : String} {text : List Char}
    (mentioned : mentions phrase text = true) (before after : List Char) :
    mentions phrase (before ++ (text ++ after)) = true := by
  rw [mentions, Text.occurs_iff] at mentioned ⊢
  obtain ⟨inner, rest, rfl⟩ := mentioned
  exact ⟨before ++ inner, rest ++ after, by simp only [List.append_assoc]⟩

/-- A text that mentions a phrase with a visible character is not blank. -/
theorem spoken_of_mentioned {phrase text : String} (c : Char) (inside : c ∈ phrase.toList)
    (visible : Text.isBlank c = false) (mentioned : mentions phrase text.toList = true) :
    Text.isAllBlank text = false := by
  rw [mentions, Text.occurs_iff] at mentioned
  rw [Text.isAllBlank, ← Bool.not_eq_true, List.all_eq_true]
  intro blank
  have other := blank c (mentioned.subset inside)
  rw [visible] at other
  cases other

/-- A row whose phrase, once it is found in a text, is found in all texts around it. -/
def Row.Spreads (row : Row) : Prop :=
  ∀ before text after, row.Matches text → row.Matches (before ++ text ++ after)

/-- A row whose search never breaks off spreads if what it finds does. -/
theorem Row.spreads_of_find {find : String → Option Groups}
    (spread : ∀ before text after, (find text).isSome = true →
      (find (before ++ text ++ after)).isSome = true) (name : String) (handler : Option Handler) :
    Row.Spreads ⟨name, .ok ∘ find, handler⟩ := by
  have matches_iff (text : String) :
      Row.Matches ⟨name, .ok ∘ find, handler⟩ text ↔ (find text).isSome = true := by
    rw [Option.isSome_iff_ne_none]
    exact not_congr ⟨Except.ok.inj, congrArg Except.ok⟩
  intro before text after matched
  rw [matches_iff] at matched ⊢
  exact spread before text after matched

theorem plain_is_some (found : Bool) : (plain found).isSome = found := by
  cases found <;> rfl

theorem to_list_around (before text after : String) :
    (before ++ text ++ after).toList = before.toList ++ (text.toList ++ after.toList) := by
  rw [String.toList_append, String.toList_append, List.append_assoc]

namespace Table

/-- All phrases of the default table spread. -/
theorem default_spreads {row : Row} (member : row ∈ default) : row.Spreads := by
  simp only [default, List.mem_cons, List.not_mem_nil, or_false] at member
  rcases member with rfl | rfl | rfl | rfl | rfl | rfl | rfl
  all_goals
    apply Row.spreads_of_find
    intro before text after found
  · rw [findMissingFile, Option.isSome_map] at found ⊢
    rw [to_list_around]
    exact first_place_embedded (between_here_grows _ _) found _ _
  · rw [findUnreadableFile] at found ⊢
    rw [to_list_around]
    exact first_place_embedded unreadable_here_grows found _ _
  · rw [findYamlSyntax, plain_is_some] at found ⊢
    rw [to_list_around]
    exact mentions_embedded found _ _
  · rw [findAnsibleSyntax, plain_is_some, List.any_eq_true] at found ⊢
    obtain ⟨phrase, known, mentioned⟩ := found
    rw [to_list_around]
    exact ⟨phrase, known, mentions_embedded mentioned _ _⟩
  · rw [findVault, plain_is_some, mentionsOnLine] at found ⊢
    rw [to_list_around]
    exact first_place_embedded (between_here_grows _ _) found _ _
  · rw [findStdin, plain_is_some] at found ⊢
    rw [to_list_around]
    exact mentions_embedded found _ _
  · rw [findSkipHint, plain_is_some] at found ⊢
    rw [to_list_around]
    exact mentions_embedded found _ _

/-! ### The row that settles a longer text -/

/-- The row that settles a text stands no later than any other that matches it. -/
theorem Settles.first_le {table : Table} {text : String} {index other : Nat} {row row' : Row}
    (settles : Settles table text index row) (place : table[other]? = some row')
    (matched : row'.Matches text) : index ≤ other := by
  rw [← Nat.not_lt]
  intro earlier
  exact matched (settles.passes_earlier earlier place)

/-- Rows that spread pass over every part of a text that they pass over. -/
theorem PassOver.inside {rows : Table} (spreads : ∀ row ∈ rows, row.Spreads)
    {before text after : String} (passed : PassOver rows (before ++ text ++ after)) :
    PassOver rows text := by
  intro row member
  rw [← Row.not_matches_iff]
  intro matched
  exact spreads row member before text after matched (passed row member)

/-- In a table whose rows all spread, more text around a text is settled no later. -/
theorem Settles.embedded {table : Table} (spreads : ∀ row ∈ table, row.Spreads)
    {before text after : String} {index index' : Nat} {row row' : Row}
    (settles : Settles table text index row) (matched : row.Matches text)
    (settles' : Settles table (before ++ text ++ after) index' row') : index' ≤ index :=
  settles'.first_le settles.place
    (spreads row (List.mem_of_getElem? settles.place) before text after matched)

/-- The row that settles a text stands behind all rows that are known to pass it over. -/
theorem Settles.behind {table : Table} {text : String} {index count : Nat} {row : Row}
    (settles : Settles table text index row) (matched : row.Matches text)
    (passed : PassOver (table.take count) text) : count ≤ index := by
  rw [← Nat.not_lt]
  intro among
  have taken : (table.take count)[index]? = some row := by
    rw [List.getElem?_take_of_lt among]
    exact settles.place
  exact matched (passed row (List.mem_of_getElem? taken))

end Table

/-- The place of a classification in a table: that of the row which it names, or behind the last. -/
def Classification.place (c : Classification) (table : Table) : Nat :=
  match c.rule? with
  | some rule => table.findIdx (·.name == rule)
  | none => table.length

namespace Table

theorem place_le_length (c : Classification) (table : Table) : c.place table ≤ table.length := by
  rw [Classification.place]
  cases c.rule? with
  | some rule => exact List.findIdx_le_length
  | none => exact Nat.le_refl _

/-- The rows of the default table are found by their names. -/
theorem default_find_name {index : Nat} {row : Row} (place : default[index]? = some row) :
    default.findIdx (·.name == row.name) = index := by
  match index, place with
  | 0, rfl => decide
  | 1, rfl => decide
  | 2, rfl => decide
  | 3, rfl => decide
  | 4, rfl => decide
  | 5, rfl => decide
  | 6, rfl => decide

/-- The last row of the default table is the only one without a handler. -/
theorem default_handler_none_iff {index : Nat} {row : Row} (place : default[index]? = some row) :
    row.handler = none ↔ index = 6 := by
  match index, place with
  | 0, rfl => exact iff_of_false nofun (by decide)
  | 1, rfl => exact iff_of_false nofun (by decide)
  | 2, rfl => exact iff_of_false nofun (by decide)
  | 3, rfl => exact iff_of_false nofun (by decide)
  | 4, rfl => exact iff_of_false nofun (by decide)
  | 5, rfl => exact iff_of_false nofun (by decide)
  | 6, rfl => exact iff_of_true rfl rfl

/-- What the default table says of a text: all rows but the last make a diagnostic, and the row that
settles the text gives the place, if there is one. -/
theorem default_placed {target : Target} {text : String} {c : Classification}
    (spoken : Text.isAllBlank text = false) (known : default.classify target text = .ok c) :
    (c.diagnostics ≠ [] ↔ c.place default < 6) ∧
      (c.place default = 7 ∧ PassOver default text ∨
        ∃ row, Settles default text (c.place default) row ∧ row.Matches text) := by
  have verdict := classify_verdict default target text
  generalize outcome : default.classify target text = said at verdict
  rw [known] at outcome
  cases verdict with
  | blank blank => cases spoken.symm.trans blank
  | unknown spoken passed =>
      cases outcome
      have behind : (Classification.unclassified text).place default = 7 := rfl
      rw [behind]
      exact ⟨iff_of_false (fun present => present rfl) (by decide), .inl ⟨rfl, passed⟩⟩
  | broken spoken settles broke => cases outcome
  | @benign index row groups spoken settles captured harmless =>
      cases outcome
      have place : (Classification.benign row.name text).place default = index :=
        default_find_name settles.place
      have last := (default_handler_none_iff settles.place).mp harmless
      rw [place]
      refine ⟨iff_of_false (fun present => present rfl) ?_, .inr ⟨row, settles, ?_⟩⟩
      · rw [last]
        decide
      · exact fun passed => nomatch captured.symm.trans passed
  | @handled index row groups handler spoken settles captured handles =>
      obtain ⟨found, made, same⟩ := Outcome.map_ok outcome.symm
      cases same
      have place : (Classification.diagnostic row.name found text).place default = index :=
        default_find_name settles.place
      have notLast : index ≠ 6 := by
        intro last
        rw [(default_handler_none_iff settles.place).mpr last] at handles
        cases handles
      have bound : index < 7 := (List.getElem?_eq_some_iff.mp settles.place).1
      rw [place]
      refine ⟨iff_of_true nofun (by omega), .inr ⟨row, settles, ?_⟩⟩
      exact fun passed => nomatch captured.symm.trans passed

/-- A text is classified no less specifically than something that was said: by the same row or an
earlier one, and as a diagnostic if that was one. Only a place that is too long to be read keeps the
text from being classified, and the row for YAML, which it belongs to, is no later row either. -/
structure AsSpecific (target : Target) (c : Classification) (text : String) : Prop where
  classified : ¬UnreadablePlace text → ∃ d, default.classify target text = .ok d ∧
    d.place default ≤ c.place default ∧ (c.diagnostics ≠ [] → d.diagnostics ≠ [])
  spoiled : UnreadablePlace text → 2 ≤ c.place default ∧
    ∃ refusal, default.classify target text = .error (.number refusal)

/-- What the default table says of a text stands no earlier than what it can say of a longer one. -/
theorem place_around {target : Target} {before text after : String} {c d : Classification}
    (spoken : Text.isAllBlank text = false) (known : default.classify target text = .ok c)
    (spoken' : Text.isAllBlank (before ++ text ++ after) = false)
    (known' : default.classify target (before ++ text ++ after) = .ok d) :
    d.place default ≤ c.place default := by
  rcases (default_placed spoken known).2 with ⟨last, _⟩ | ⟨row, settles, matched⟩
  · rw [last]
    exact place_le_length d default
  · have inside := List.mem_of_getElem? settles.place
    rcases (default_placed spoken' known').2 with ⟨_, passed⟩ | ⟨row', settles', _⟩
    · exact absurd (passed row inside) (default_spreads inside before text after matched)
    · exact settles.embedded (fun _ member => default_spreads member) matched settles'

theorem classify_readable (target : Target) {text : String} (readable : ¬UnreadablePlace text) :
    ∃ c, default.classify target text = .ok c := by
  rcases classify_default_cases target text with
    ⟨_, known⟩ | ⟨_, _, known⟩ | ⟨_, unreadable, _⟩ | ⟨_, known⟩ | ⟨_, rule, found, known⟩
  · exact ⟨_, known⟩
  · exact ⟨_, known⟩
  · exact absurd unreadable readable
  · exact ⟨_, known⟩
  · exact ⟨_, known⟩

theorem as_specific_around {target : Target} {text : String} {c : Classification}
    (spoken : Text.isAllBlank text = false) (known : default.classify target text = .ok c)
    (before after : String) : AsSpecific target c (before ++ text ++ after) := by
  have spoken' : Text.isAllBlank (before ++ text ++ after) = false := by
    simp only [ToolOutput.all_blank_append, spoken, Bool.and_false, Bool.false_and]
  have placed := default_placed spoken known
  constructor
  · intro readable
    obtain ⟨d, known'⟩ := classify_readable target readable
    have early := place_around spoken known spoken' known'
    refine ⟨d, known', early, ?_⟩
    intro made
    exact (default_placed spoken' known').1.mpr (Nat.lt_of_le_of_lt early (placed.1.mp made))
  · intro unreadable
    refine ⟨?_, classify_unreadable_place spoken' unreadable target⟩
    -- The rows before that for YAML pass over the whole, and so over the part.
    rcases placed.2 with ⟨last, _⟩ | ⟨row, settles, matched⟩
    · rw [last]
      decide
    · apply settles.behind matched
      exact PassOver.inside (fun _ member => default_spreads (List.mem_of_mem_take member))
        unreadable.1

/-! ### What a run leaves -/

/-- The error output and the reason of a failure both stand in the failure text as they are. -/
theorem error_text_around {output : ToolOutput} {text : String}
    (spoken : Text.isAllBlank text = false)
    (part : output.stderr = text ∨ output.failure = some text) :
    ∃ before after, output.errorText = before ++ text ++ after := by
  rcases part with rfl | told
  · have complains : output.complains = true := by
      simp only [ToolOutput.complains, spoken, Bool.not_false]
    cases cause : output.reason? with
    | none => exact ⟨"", "", by simp only [ToolOutput.errorText, cause, String.empty_append,
        String.append_empty]⟩
    | some reason =>
        refine ⟨"", "\n" ++ reason, ?_⟩
        simp only [ToolOutput.errorText, cause, complains, if_true, String.empty_append,
          String.append_assoc]
  · have given : text ≠ "" := by
      rintro rfl
      cases spoken
    have cause := ToolOutput.reason_of_failure told given
    obtain ⟨before, ends⟩ := ToolOutput.error_text_ends_in_reason cause
    exact ⟨before, "", by rw [ends, String.append_empty]⟩

/-- More failure output never hides a more specific cause. Whatever stands before and behind a text
that is not blank, the whole is classified by the same row of the default table or an earlier one, and
as a diagnostic if the text was; so it is when the text is the error output or the reason of a failure
and both are told together. It fails exactly over a place in a YAML error that is too long to be
read. -/
theorem classified_no_later (target : Target) {text : String} {c : Classification}
    (spoken : Text.isAllBlank text = false) (known : default.classify target text = .ok c) :
    (∀ before after, AsSpecific target c (before ++ text ++ after)) ∧
      ∀ output : ToolOutput, output.stderr = text ∨ output.failure = some text →
        AsSpecific target c output.errorText := by
  refine ⟨as_specific_around spoken known, ?_⟩
  intro output part
  obtain ⟨before, after, whole⟩ := error_text_around spoken part
  rw [whole]
  exact as_specific_around spoken known before after

/-- A vault is what a text is about, until a syntax error in YAML is told in front of it. -/
theorem vault_behind_yaml :
    Text.isAllBlank "vault password to decrypt" = false ∧
      default.classify ⟨.ofText "/work/site.yml", .ofText "/work"⟩ "vault password to decrypt" =
        .ok (.diagnostic "vault-encrypted" (.ofFile .info vaultExcerpt "/work/site.yml")
          "vault password to decrypt") ∧
      ∃ d, default.classify ⟨.ofText "/work/site.yml", .ofText "/work"⟩
          ("Syntax Error while loading YAML, " ++ "vault password to decrypt" ++ " data") = .ok d ∧
        d.place default ≤ 4 ∧ d.diagnostics ≠ [] := by
  have spoken : Text.isAllBlank "vault password to decrypt" = false := by decide
  have known : default.classify ⟨.ofText "/work/site.yml", .ofText "/work"⟩
      "vault password to decrypt" =
        .ok (.diagnostic "vault-encrypted" (.ofFile .info vaultExcerpt "/work/site.yml")
          "vault password to decrypt") := by rfl
  have around := (classified_no_later _ spoken known).1 "Syntax Error while loading YAML, " " data"
  have readable : ¬UnreadablePlace
      ("Syntax Error while loading YAML, " ++ "vault password to decrypt" ++ " data") := by
    rintro ⟨_, _, line, column, told, _⟩
    have silent : lineColumn? ("Syntax Error while loading YAML, " ++
        "vault password to decrypt" ++ " data").toList = none := by decide +kernel
    cases silent.symm.trans told
  obtain ⟨d, known', early, made⟩ := around.classified readable
  exact ⟨spoken, known, d, known', early, made nofun⟩

/-! ### A place that is too long -/

/-- A text that is taken between two phrases stands behind every character of the first. -/
theorem mem_of_between_here {opening closing : String} {text : List Char}
    (found : (betweenHere opening closing text).isSome = true) {c : Char}
    (inside : c ∈ opening.toList) : c ∈ text := by
  obtain ⟨taken, more, _, rfl⟩ := (between_here_is_some_iff opening closing text).mp found
  exact List.mem_append_left _ inside

/-- A syntax error in YAML, with a line of so many digits told in front of it. -/
def yamlErrorAt (line : List Char) : List Char :=
  "line ".toList ++ (line ++ ", column 1\nSyntax Error while loading YAML".toList)

variable {line : List Char} (decimal : ∀ c ∈ line, Text.isDecimalDigit c = true)

include decimal

theorem yaml_error_at_places (filled : line ≠ []) :
    Places (yamlErrorAt line) (line, ['1']) := by
  have one : ∀ c ∈ ['1'], Text.isDecimalDigit c = true := by
    intro c among
    rw [List.mem_singleton.mp among]
    decide +kernel
  refine ⟨⟨filled, List.cons_ne_nil _ _⟩, ⟨decimal, one⟩, ' ', ' ', ' ',
    "\nSyntax Error while loading YAML".toList, by decide, by decide, by decide, ?_, rfl⟩
  intro c first
  cases first
  decide +kernel

theorem yaml_error_at_too_long (long : Text.digitLimit < line.length) :
    PlaceTooLong (yamlErrorAt line) := by
  have filled : line ≠ [] := List.ne_nil_of_length_pos (Nat.zero_lt_of_lt long)
  have placed := first_of_here (yaml_error_at_places decimal filled)
  exact ⟨line, ['1'], (line_column_eq_some_iff _ (line, ['1'])).mpr placed, .inl long⟩

/-- The rows before that for YAML need characters that the text does not have. -/
theorem yaml_error_at_passed : PassOver (default.take 2) (String.ofList (yamlErrorAt line)) := by
  have absent {c : Char} (noDigit : Text.isDecimalDigit c = false)
      (other : c ∉ "line , column 1\nSyntax Error while loading YAML".toList) :
      c ∉ yamlErrorAt line := by
    intro among
    rw [yamlErrorAt, List.mem_append, List.mem_append] at among
    rcases among with front | digit | back
    · exact other (List.mem_append_left ", column 1\nSyntax Error while loading YAML".toList front)
    · rw [decimal c digit] at noDigit
      cases noDigit
    · exact other (List.mem_append_right "line ".toList back)
  have noGreatW : 'W' ∉ yamlErrorAt line := absent (by decide +kernel) (by decide)
  have noQuote : '\'' ∉ yamlErrorAt line := absent (by decide +kernel) (by decide)
  have noBar : '_' ∉ yamlErrorAt line := absent (by decide +kernel) (by decide)
  intro row member
  simp only [default, List.take_succ_cons, List.take_zero, List.mem_cons, List.not_mem_nil,
    or_false] at member
  rcases member with rfl | rfl
  all_goals
    apply congrArg Except.ok
    rw [← Option.not_isSome_iff_eq_none]
    intro found
  · rw [findMissingFile, Option.isSome_map, between, first_place_is_some_iff,
      String.toList_ofList] at found
    obtain ⟨before, rest, cut, there⟩ := found
    rw [cut] at noGreatW
    exact noGreatW (List.mem_append_right before (mem_of_between_here there (by decide)))
  · rw [findUnreadableFile, first_place_is_some_iff, String.toList_ofList] at found
    obtain ⟨before, rest, cut, there⟩ := found
    rw [cut] at noQuote noBar
    rcases (unreadable_here_is_some_iff rest).mp there with named | accessed | read
    · exact noBar (List.mem_append_right before (mem_of_between_here named (by decide)))
    · exact noQuote (List.mem_append_right before (mem_of_between_here accessed (by decide)))
    · exact noQuote (List.mem_append_right before (mem_of_between_here read (by decide)))

/-- A line of too many digits in front of a syntax error in YAML cannot be read. -/
theorem yaml_error_at_unreadable (long : Text.digitLimit < line.length) :
    UnreadablePlace (String.ofList (yamlErrorAt line)) := by
  refine ⟨yaml_error_at_passed decimal, ?_, ?_⟩
  · rw [String.toList_ofList, mentions, Text.occurs_iff]
    exact ⟨"line ".toList ++ line ++ ", column 1\n".toList, [], by
      rw [yamlErrorAt, List.append_nil, List.append_assoc, List.append_assoc]
      rfl⟩
  · rw [String.toList_ofList]
    exact yaml_error_at_too_long decimal long

omit decimal

theorem yaml_error_behind_place (line : List Char) :
    String.ofList ("line ".toList ++ (line ++ ", column 1\n".toList)) ++
      "Syntax Error while loading YAML" ++ "" = String.ofList (yamlErrorAt line) := by
  apply String.toList_inj.mp
  simp only [String.toList_append, String.toList_ofList, yamlErrorAt, List.append_assoc]
  rfl

/-- The number one with zeros in front, one digit too long to be read. -/
theorem long_one_decimal :
    ∀ c ∈ List.replicate 4300 '0' ++ ['1'], Text.isDecimalDigit c = true := by
  intro c among
  rw [List.mem_append, List.mem_replicate, List.mem_singleton] at among
  rcases among with ⟨_, rfl⟩ | rfl
  · decide +kernel
  · decide +kernel

theorem long_one_too_long : Text.digitLimit < (List.replicate 4300 '0' ++ ['1']).length := by
  rw [List.length_append, List.length_replicate]
  decide

/-- The first line, told with so many zeros in front that it cannot be read, hides the cause that is
told behind it. -/
theorem long_place_hides_cause :
    Text.isAllBlank "Syntax Error while loading YAML" = false ∧
      default.classify ⟨.ofText "/work/site.yml", .ofText "/work"⟩
          "Syntax Error while loading YAML" =
        .ok (.diagnostic "yaml-syntax"
          ⟨.error, yamlSyntaxExcerpt, "/work/site.yml", .fileStart, none⟩
          "Syntax Error while loading YAML") ∧
      ¬∃ d, default.classify ⟨.ofText "/work/site.yml", .ofText "/work"⟩
          (String.ofList ("line ".toList ++ (List.replicate 4300 '0' ++ ['1'] ++
            ", column 1\n".toList)) ++ "Syntax Error while loading YAML" ++ "") = .ok d ∧
        d.place default ≤ 2 := by
  refine ⟨by decide, by rfl, ?_⟩
  rintro ⟨d, known, _⟩
  have unreadable := yaml_error_at_unreadable long_one_decimal long_one_too_long
  have spoken := spoken_of_mentioned 'S' (by decide) (by decide) unreadable.2.1
  obtain ⟨refusal, broken⟩ := classify_unreadable_place spoken unreadable
    ⟨.ofText "/work/site.yml", .ofText "/work"⟩
  rw [yaml_error_behind_place, broken] at known
  cases known

end Table

end Failure

end PlaybookLint
