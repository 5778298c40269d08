import PlaybookLint.Proofs.Respelling

/-!
Classification with other line ends. All phrases of the default table are found alike, so a failure text
is of the same kind and settled by the same rule however its lines end. What is made of it differs in
two cases only: an error in YAML whose place is told across the end of a line, and a message that takes
along the carriage return at its end.
-/

namespace PlaybookLint

namespace Failure

open Text (Widened)

variable {s t : List Char}

/-! ### What handlers make of the text -/

theorem yaml_diagnostic_alike_iff (target : Target) (w : Widened s t) :
    Handler.yamlDiagnostic target t = Handler.yamlDiagnostic target s ↔ rangeRead t = rangeRead s := by
  have file : errorFile? t = errorFile? s := between_widened (by decide) (by decide) w
  have same : yamlErrorIn target t = yamlErrorIn target s := by
    funext range
    rw [yamlErrorIn, yamlErrorIn, file]
  rw [yaml_diagnostic_eq, yaml_diagnostic_eq, same]
  refine Outcome.map_eq_map_iff (fun a b alike => ?_) _
  exact congrArg Diagnostic.range alike

theorem First.inside {message : List Char} (told : First Announces s message) {c : Char}
    (among : c ∈ message) : c ∈ s := by
  obtain ⟨before, rest, rfl, ⟨_, ending, number, behind, _, _, _, _, rfl⟩, _⟩ := told
  simp only [List.mem_append, List.mem_cons, among, true_or, or_true]

/-- The excerpt of a syntax error beyond YAML, for the message that is read. -/
def excerptOf (message : Option (List Char)) : String := (nonEmpty? message).getD ansibleSyntaxExcerpt

theorem return_not_in_excerpt_of {message : List Char} (clean : '\r' ∉ message) :
    '\r' ∉ (excerptOf (some message)).toList := by
  rw [excerptOf, nonEmpty?, Option.bind_some]
  split
  · exact (by decide : '\r' ∉ ansibleSyntaxExcerpt.toList)
  · rw [Option.getD_some, String.toList_ofList]
    exact clean

theorem excerpt_of_trailing (message : List Char) :
    (excerptOf (some (message ++ ['\r']))).toList = message ++ ['\r'] := by
  have filled : (message ++ ['\r']).isEmpty = false :=
    List.isEmpty_eq_false_iff.mpr (List.append_ne_nil_of_right_ne_nil message (List.cons_ne_nil _ _))
  rw [excerptOf, nonEmpty?, Option.bind_some, filled, if_neg Bool.false_ne_true, Option.getD_some,
    String.toList_ofList]

/-- The excerpt is the same exactly if no carriage return has got into the message. -/
theorem excerpt_of_alike_iff {x y : Option (List Char)} (clean : ∀ message, x = some message →
    '\r' ∉ message) (related : Option.Rel Trails x y) :
    excerptOf y = excerptOf x ↔ ∀ message, y = some message → '\r' ∉ message := by
  cases related with
  | none => exact iff_of_true rfl nofun
  | @some message message' trails =>
      have clean := clean message rfl
      rcases trails with rfl | rfl
      · exact iff_of_true rfl fun other same => Option.some.inj same ▸ clean
      · have ended : '\r' ∈ message ++ ['\r'] := List.mem_append_right message List.mem_cons_self
        refine iff_of_false (fun same => ?_) fun none => none _ rfl ended
        apply return_not_in_excerpt_of clean
        rw [← same, excerpt_of_trailing]
        exact ended

theorem ansible_diagnostic_alike_iff (target : Target) (groups : Groups) {s t : String}
    (plain : '\r' ∉ s.toList) (w : Widened s.toList t.toList) :
    Handler.ansibleSyntax.diagnostic target groups t =
        Handler.ansibleSyntax.diagnostic target groups s ↔
      ∀ message, First Announces t.toList message → '\r' ∉ message := by
  have clean (message : List Char) (told : yamlMessage? s.toList = some message) :
      '\r' ∉ message :=
    fun among => plain (((yaml_message_eq_some_iff s.toList message).mp told).inside among)
  simp only [← yaml_message_eq_some_iff]
  rw [← excerpt_of_alike_iff clean (yaml_message_widened w)]
  constructor
  · exact fun same => congrArg Diagnostic.excerpt (Except.ok.inj same)
  · exact fun same =>
      congrArg (fun excerpt => Except.ok (Diagnostic.ofFile .error excerpt target.name)) same

/-! ### Classification -/

/-- What a classification says, but for the text itself. -/
def Classification.gist (c : Classification) : String × Option String × List Diagnostic :=
  (c.kindName, c.rule?, c.diagnostics)

namespace Table

/-- A text that is not blank is settled by the default row of a name. -/
def SettledBy (name text : String) : Prop :=
  Text.isAllBlank text = false ∧
    ∃ row groups, match? text default = .ok (some (row, groups)) ∧ row.name = name

/-- A text that is not blank is settled by a default row, and the handler of that gets what was
captured. -/
structure Handled (text : String) (row : Row) (groups : Groups) (handler : Handler) : Prop where
  spoken : Text.isAllBlank text = false
  found : match? text default = .ok (some (row, groups))
  handles : row.handler = some handler

theorem mem_of_match {table : Table} {text : String} {row : Row} {groups : Groups}
    (found : match? text table = .ok (some (row, groups))) : row ∈ table := by
  have searched := match_search table text
  rw [found] at searched
  cases searched with
  | found settles _ => exact List.mem_of_getElem? settles.place

variable {s t : String} {row : Row} {groups : Groups} {handler : Handler}

theorem match_widened (w : Widened s.toList t.toList) : match? t default = match? s default :=
  match_congr fun _ member => default_find_widened member w

theorem blank_widened (w : Widened s.toList t.toList) : Text.isAllBlank t = Text.isAllBlank s :=
  w.all_blank

theorem Handled.widened (w : Widened s.toList t.toList) (handled : Handled s row groups handler) :
    Handled t row groups handler :=
  ⟨(blank_widened w).trans handled.spoken, (match_widened w).trans handled.found, handled.handles⟩

theorem Handled.settled_by_iff (handled : Handled s row groups handler) (name : String) :
    SettledBy name s ↔ row.name = name := by
  constructor
  · rintro ⟨_, row', groups', found, named⟩
    cases handled.found.symm.trans found
    exact named
  · exact fun named => ⟨handled.spoken, row, groups, handled.found, named⟩

theorem Handled.gist_eq (handled : Handled s row groups handler) (target : Target) :
    (default.classify target s).map Classification.gist =
      (handler.diagnostic target groups s).map fun d => ("diagnostic", some row.name, [d]) := by
  obtain ⟨spoken, found, handles⟩ := handled
  simp only [classify, spoken, Bool.false_eq_true, if_false, found, handles]
  cases handler.diagnostic target groups s <;> rfl

theorem Handled.kind_and_rule (handled : Handled s row groups handler) {target : Target}
    {c : Classification} (known : default.classify target s = .ok c) :
    c.kindName = "diagnostic" ∧ c.rule? = some row.name := by
  have told := handled.gist_eq target
  rw [known] at told
  obtain ⟨d, _, same⟩ := Outcome.map_ok told.symm
  exact ⟨(congrArg Prod.fst same).symm, (congrArg (·.2.1) same).symm⟩

/-- Of the handlers of the default table, those for syntax errors read the text itself. -/
theorem Handled.diagnostic_alike_iff (plain : '\r' ∉ s.toList) (w : Widened s.toList t.toList)
    (handled : Handled s row groups handler) (target : Target) :
    handler.diagnostic target groups t = handler.diagnostic target groups s ↔
      (row.name = "yaml-syntax" → rangeRead t.toList = rangeRead s.toList) ∧
      (row.name = "ansible-syntax" →
        ∀ message, First Announces t.toList message → '\r' ∉ message) := by
  obtain ⟨_, found, handles⟩ := handled
  have member := mem_of_match found
  clear found
  simp only [default, List.mem_cons, List.not_mem_nil, or_false] at member
  rcases member with rfl | rfl | rfl | rfl | rfl | rfl | rfl <;> cases handles
  · exact iff_of_true rfl ⟨(absurd · (by decide)), (absurd · (by decide))⟩
  · exact iff_of_true rfl ⟨(absurd · (by decide)), (absurd · (by decide))⟩
  · rw [← yaml_diagnostic_alike_iff target w]
    exact ⟨fun same => ⟨fun _ => same, (absurd · (by decide))⟩, fun told => told.1 rfl⟩
  · rw [← ansible_diagnostic_alike_iff target groups plain w]
    exact ⟨fun same => ⟨(absurd · (by decide)), fun _ => same⟩, fun told => told.2 rfl⟩
  · exact iff_of_true rfl ⟨(absurd · (by decide)), (absurd · (by decide))⟩
  · exact iff_of_true rfl ⟨(absurd · (by decide)), (absurd · (by decide))⟩

theorem Handled.gist_alike_iff (plain : '\r' ∉ s.toList) (w : Widened s.toList t.toList)
    (handled : Handled s row groups handler) (target : Target) :
    (default.classify target t).map Classification.gist =
        (default.classify target s).map Classification.gist ↔
      (SettledBy "yaml-syntax" s → rangeRead t.toList = rangeRead s.toList) ∧
        (SettledBy "ansible-syntax" s →
          ∀ message, First Announces t.toList message → '\r' ∉ message) := by
  have injective (d d' : Diagnostic)
      (same : ("diagnostic", some row.name, [d]) = ("diagnostic", some row.name, [d'])) : d = d' := by
    simpa using same
  rw [handled.gist_eq, (handled.widened w).gist_eq, Outcome.map_eq_map_iff injective,
    handled.settled_by_iff, handled.settled_by_iff]
  exact handled.diagnostic_alike_iff plain w target

/-- What a text is classified as without a handler does not depend on its line ends. -/
theorem unhandled_alike (w : Widened s.toList t.toList)
    (none : ∀ row groups handler, ¬Handled s row groups handler) (target : Target) :
    (default.classify target t).map Classification.gist =
      (default.classify target s).map Classification.gist := by
  simp only [classify, blank_widened w, match_widened w]
  cases spoken : Text.isAllBlank s with
  | true => rfl
  | false =>
      cases found : match? s default with
      | error fault => rfl
      | ok reached =>
          cases reached with
          | none => rfl
          | some settled =>
              obtain ⟨row, groups⟩ := settled
              cases handles : row.handler with
              | none =>
                  simp only [Bool.false_eq_true, if_false, handles]
                  rfl
              | some handler => exact absurd ⟨spoken, found, handles⟩ (none row groups handler)

/-- Without a handler, a text is settled by the hint about skipping rules if at all. -/
theorem unhandled_settled (none : ∀ row groups handler, ¬Handled s row groups handler) {name : String}
    (settled : SettledBy name s) : "skip-rules-hint" = name := by
  obtain ⟨spoken, row, groups, found, rfl⟩ := settled
  have member := mem_of_match found
  have unhandled (handler : Handler) (handles : row.handler = some handler) : False :=
    none row groups handler ⟨spoken, found, handles⟩
  clear found
  simp only [default, List.mem_cons, List.not_mem_nil, or_false] at member
  rcases member with rfl | rfl | rfl | rfl | rfl | rfl | rfl <;>
    first | rfl | exact (unhandled _ rfl).elim

/-- A failure text that has no carriage returns is classified alike with other line ends: as the same
kind, by the same rule and with the same diagnostics. There are two exceptions, each for one row: an
error in YAML is alike exactly if the range that is read is the same, and it is if every place is told
within a line; a syntax error beyond YAML is alike exactly if no carriage return has got into the first
message. The kind and the rule are the same even so. -/
theorem respelled_classified_alike_iff (target : Target) {s t : String} (plain : '\r' ∉ s.toList)
    (respelled : Text.Respelled s.toList t.toList) :
    ((default.classify target t).map Classification.gist =
        (default.classify target s).map Classification.gist ↔
      (SettledBy "yaml-syntax" s → rangeRead t.toList = rangeRead s.toList) ∧
        (SettledBy "ansible-syntax" s →
          ∀ message, First Announces t.toList message → '\r' ∉ message)) ∧
    (ToldInLines s.toList → rangeRead t.toList = rangeRead s.toList) ∧
    ∀ c d, default.classify target s = .ok c → default.classify target t = .ok d →
      d.kindName = c.kindName ∧ d.rule? = c.rule? := by
  have w := respelled.widened_of_plain plain
  by_cases handled : ∃ row groups handler, Handled s row groups handler
  · obtain ⟨row, groups, handler, handled⟩ := handled
    refine ⟨handled.gist_alike_iff plain w target, range_read_widened w, ?_⟩
    intro c d known known'
    have kept := handled.kind_and_rule known
    have kept' := (handled.widened w).kind_and_rule known'
    exact ⟨kept'.1.trans kept.1.symm, kept'.2.trans kept.2.symm⟩
  · simp only [not_exists] at handled
    have alike := unhandled_alike w handled target
    refine ⟨iff_of_true alike ⟨fun settled => ?_, fun settled => ?_⟩, range_read_widened w, ?_⟩
    · exact absurd (unhandled_settled handled settled) (by decide)
    · exact absurd (unhandled_settled handled settled) (by decide)
    · intro c d known known'
      rw [known, known'] at alike
      have same := Except.ok.inj alike
      exact ⟨congrArg Prod.fst same, congrArg (·.2.1) same⟩

/-- An error in YAML is told alike with carriage returns in front of both line feeds. -/
theorem yaml_error_respelled :
    '\r' ∉ "Syntax Error while loading YAML\nline 3, column 5\n".toList ∧
      Text.Respelled "Syntax Error while loading YAML\nline 3, column 5\n".toList
        "Syntax Error while loading YAML\r\nline 3, column 5\r\n".toList ∧
      (default.classify ⟨.ofText "/work/site.yml", .ofText "/work"⟩
          "Syntax Error while loading YAML\r\nline 3, column 5\r\n").map Classification.gist =
        .ok ("diagnostic", some "yaml-syntax",
          [⟨.error, yamlSyntaxExcerpt, "/work/site.yml", ⟨⟨2, 4⟩, ⟨2, 5⟩⟩, none⟩]) := by
  have plain : '\r' ∉ "Syntax Error while loading YAML\nline 3, column 5\n".toList := by decide
  have respelled : Text.Respelled "Syntax Error while loading YAML\nline 3, column 5\n".toList
      "Syntax Error while loading YAML\r\nline 3, column 5\r\n".toList :=
    (Text.Respelled.widened ((Text.Respelled.widened .nil).behind "line 3, column 5".toList)).behind
      "Syntax Error while loading YAML".toList
  have range : rangeRead "Syntax Error while loading YAML\nline 3, column 5\n".toList =
      .ok ⟨⟨2, 4⟩, ⟨2, 5⟩⟩ := Outcome.ok_of_to_option (by decide +kernel)
  have range' : rangeRead "Syntax Error while loading YAML\r\nline 3, column 5\r\n".toList =
      .ok ⟨⟨2, 4⟩, ⟨2, 5⟩⟩ := Outcome.ok_of_to_option (by decide +kernel)
  have silent : yamlMessage? "Syntax Error while loading YAML\r\nline 3, column 5\r\n".toList =
      none := by decide +kernel
  have known : (default.classify ⟨.ofText "/work/site.yml", .ofText "/work"⟩
      "Syntax Error while loading YAML\nline 3, column 5\n").map Classification.gist =
        .ok ("diagnostic", some "yaml-syntax",
          [⟨.error, yamlSyntaxExcerpt, "/work/site.yml", ⟨⟨2, 4⟩, ⟨2, 5⟩⟩, none⟩]) :=
    Outcome.ok_of_to_option (by decide +kernel)
  obtain ⟨alike, _, _⟩ :=
    respelled_classified_alike_iff ⟨.ofText "/work/site.yml", .ofText "/work"⟩ plain respelled
  refine ⟨plain, respelled, (alike.mpr ⟨fun _ => range'.trans range.symm, ?_⟩).trans known⟩
  intro _ message announced
  cases silent.symm.trans ((yaml_message_eq_some_iff _ message).mpr announced)

/-- A message that goes on to a carriage return takes it along. -/
theorem return_in_message :
    '\r' ∉ "raise AnsibleError\ntasks.yml:3 bad indentation\n".toList ∧
      Text.Respelled "raise AnsibleError\ntasks.yml:3 bad indentation\n".toList
        "raise AnsibleError\r\ntasks.yml:3 bad indentation\r\n".toList ∧
      (default.classify ⟨.ofText "/work/site.yml", .ofText "/work"⟩
          "raise AnsibleError\ntasks.yml:3 bad indentation\n").map Classification.gist =
        .ok ("diagnostic", some "ansible-syntax",
          [.ofFile .error "bad indentation" "/work/site.yml"]) ∧
      (default.classify ⟨.ofText "/work/site.yml", .ofText "/work"⟩
          "raise AnsibleError\r\ntasks.yml:3 bad indentation\r\n").map Classification.gist =
        .ok ("diagnostic", some "ansible-syntax",
          [.ofFile .error "bad indentation\r" "/work/site.yml"]) :=
  ⟨by decide,
    (Text.Respelled.widened ((Text.Respelled.widened .nil).behind
      "tasks.yml:3 bad indentation".toList)).behind "raise AnsibleError".toList,
    Outcome.ok_of_to_option (by decide +kernel), Outcome.ok_of_to_option (by decide +kernel)⟩

end Table

end Failure

end PlaybookLint
