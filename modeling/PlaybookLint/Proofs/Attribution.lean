import PlaybookLint.Proofs.Outcome
import PlaybookLint.Proofs.PathSpelling
import PlaybookLint.Proofs.ReportLine

/-!
The files that findings belong to. A finding that names the target, by its path or anywhere on its
line, belongs to the target; any other belongs to its path as seen from where the linter worked. So
the target may be reported by its full name or in any spelling of it as seen from there.
-/

namespace PlaybookLint

/-! ### Reported paths -/

namespace Target

/-- The target with a name in a directory, where the linter works. -/
def within (directory name : String) : Target :=
  ⟨(Path.ofText directory).child name, Path.ofText directory⟩

variable {directory name reported : String}

/-- A path with an anchor is not moved. -/
theorem locate_absolute (absolute : (Path.ofText reported).isAbsolute = true) (target : Target) :
    target.locate reported = (Path.ofText reported).text := by
  rw [locate, Path.join, if_pos absolute]

/-- A path without an anchor goes on from the directory. -/
theorem locate_relative (relative : (Path.ofText reported).isAbsolute = false)
    (directory name : String) : Path.ofText ((within directory name).locate reported) =
      ⟨(Path.ofText directory).anchor,
        (Path.ofText directory).parts ++ (Path.ofText reported).parts⟩ := by
  have joined : Path.ofText ((within directory name).locate reported) =
      (Path.ofText directory).child reported :=
    Path.of_text_text (Path.child_normal directory reported)
  rw [joined, Path.child, Path.join, relative]
  rfl

example : (within "//host/work" "site.yml").locate "../roles//web/./main.yml" =
    "//host/work/../roles/web/main.yml" := by decide

/-- Every spelling of the name, as seen from the directory, is the target. -/
theorem locate_spelling (relative : (Path.ofText name).isAbsolute = false)
    (spelling : Path.Spelling name.toList reported.toList) :
    (within directory name).locate reported = (within directory name).name := by
  rw [locate, spelling.of_text relative]
  rfl

end Target

namespace Finding

variable {directory name : String} {target : Target} {line line' : List Char} {f f' : Finding}
  {d d' : Diagnostic}

/-! ### What is left of a line -/

/-- What is left of a line is its end, and at most a line feed. -/
def LeavesEnd (s : List Char) (f : Finding) : Prop :=
  f.rest <:+ s ∧ (f.rest = [] ∨ f.rest = ['\n'])

theorem message_leaves_end {s message rest : List Char}
    (read : messageAndRest? s = some (message, rest)) :
    rest <:+ s ∧ (rest = [] ∨ rest = ['\n']) := by
  rw [messageAndRest?] at read
  split at read
  · rename_i ends
    cases read
    rw [Bool.or_eq_true, List.isEmpty_iff, beq_iff_eq] at ends
    exact ⟨List.dropWhile_suffix _, ends⟩
  · cases read

theorem after_path_leaves_end {s : List Char} (read : afterPath? s = some f) : LeavesEnd s f := by
  obtain ⟨⟨number, t⟩, numbered, read⟩ := Option.bind_eq_some_iff.mp read
  obtain ⟨⟨code, u⟩, coded, read⟩ := Option.bind_eq_some_iff.mp read
  obtain ⟨⟨message, rest⟩, told, read⟩ := Option.bind_eq_some_iff.mp read
  cases read
  obtain ⟨ending, short⟩ := message_leaves_end told
  obtain ⟨_, _, rfl⟩ := (line_eq_some_iff _ _ _).mp numbered
  obtain ⟨_, _, before, after, _, _, rfl⟩ := (code_eq_some_iff _ _ _).mp coded
  refine ⟨ending.trans ⟨':' :: number ++ ':' :: before :: '[' :: code ++ [']', after], ?_⟩, short⟩
  simp

theorem LeavesEnd.lengthen {s : List Char} (ends : LeavesEnd s f) (c : Char) :
    LeavesEnd (c :: s) (f.lengthen c) :=
  ⟨ends.1.trans (List.suffix_cons c s), ends.2⟩

theorem shortest_leaves_end {s : List Char} (read : shortest? s = some f) : LeavesEnd s f := by
  induction s generalizing f with
  | nil => cases read
  | cons c s ih =>
      rw [shortest?] at read
      split at read
      · rename_i g here
        cases read
        exact after_path_leaves_end here
      · split at read
        · cases read
        · obtain ⟨g, later, rfl⟩ := Option.map_eq_some_iff.mp read
          exact (ih later).lengthen c

/-- All of a line is shown but a line feed at its end. -/
theorem shown_or_feed (read : read? line = some f) :
    line = f.shown line ∨ line = f.shown line ++ ['\n'] := by
  have ends : LeavesEnd line f := by
    cases line with
    | nil => cases read
    | cons c s =>
        rw [read?] at read
        split at read
        · cases read
        · obtain ⟨g, later, rfl⟩ := Option.map_eq_some_iff.mp read
          exact (shortest_leaves_end later).lengthen c
  obtain ⟨⟨front, cut⟩, short⟩ := ends
  have shown : f.shown line = front := by
    rw [Finding.shown, ← cut, List.length_append, Nat.add_sub_cancel, List.take_left]
  rw [shown, ← cut]
  rcases short with none | feed
  · rw [none, List.append_nil]
    exact .inl rfl
  · rw [feed]
    exact .inr rfl

/-! ### Findings and their files -/

/-- A line of a report is read as a finding, and comes to a diagnostic. -/
structure Reported (target : Target) (line : List Char) (f : Finding) (d : Diagnostic) : Prop where
  read : read? line = some f
  parsed : Report.diagnosticsOfLines target [line] = .ok [d]

theorem Reported.diagnosed (reported : Reported target line f d) :
    f.diagnostic target line = .ok d := by
  have parsed := reported.parsed
  simp only [Report.diagnosticsOfLines, reported.read] at parsed
  obtain ⟨first, diagnosed, same⟩ := Outcome.bind_ok parsed
  cases same
  exact diagnosed

theorem Reported.file_eq (reported : Reported target line f d) : d.file = f.file target line := by
  obtain ⟨number, _, rfl⟩ := Outcome.map_ok reported.diagnosed
  rfl

/-- A finding names the target: its path is that of the target, or the target is mentioned anywhere
on the line. -/
def Names (target : Target) (line : List Char) (f : Finding) : Prop :=
  f.path = target.name.toList ∨ target.name.toList <:+: f.shown line

theorem names_iff : Names target line f ↔
    (f.path == target.name.toList || Text.occurs target.name.toList (f.shown line)) = true := by
  rw [Names, Bool.or_eq_true, beq_iff_eq, Text.occurs_iff]

theorem Reported.of_named (reported : Reported target line f d) (named : Names target line f) :
    d.file = target.name := by
  rw [reported.file_eq, file, if_pos (names_iff.mp named)]

theorem Reported.of_unnamed (reported : Reported target line f d)
    (unnamed : ¬Names target line f) : d.file = target.locate (String.ofList f.path) := by
  rw [reported.file_eq, file, if_neg (mt names_iff.mpr unnamed)]

/-- Findings that say the same come to the same diagnostic if they belong to the same file. -/
theorem Reported.eq_of_same (reported : Reported target line f d)
    (reported' : Reported target line' f' d') (number : f.line = f'.line) (code : f.code = f'.code)
    (message : f.message = f'.message) (file : d.file = d'.file) : d = d' := by
  rw [reported.file_eq, reported'.file_eq] at file
  have same : f.diagnostic target line = f'.diagnostic target line' := by
    rw [diagnostic, diagnostic, number, code, message, file]
  rw [reported.diagnosed, reported'.diagnosed] at same
  exact Except.ok.inj same

/-- A finding belongs to the target exactly if it names the target or its path leads there. -/
theorem Reported.file_is_target_iff (found : Reported (.within directory name) line f d) :
    d.file = (Target.within directory name).name ↔ Names (.within directory name) line f ∨
      (Path.ofText directory).child (String.ofList f.path) =
        (Path.ofText directory).child name := by
  by_cases named : Names (.within directory name) line f
  · exact iff_of_true (found.of_named named) (.inl named)
  · rw [found.of_unnamed named, or_iff_right named]
    constructor
    · exact (Path.child_normal directory _).eq_of_text (Path.child_normal directory name)
    · exact congrArg Path.text

/-- A spelling of the name is the target, whether the finding names the target or not. -/
theorem Reported.of_spelling (found : Reported (.within directory name) line f d)
    (relative : (Path.ofText name).isAbsolute = false)
    (spelling : Path.Spelling name.toList f.path) :
    d.file = (Target.within directory name).name := by
  rw [← String.toList_ofList (l := f.path)] at spelling
  rw [found.file_is_target_iff]
  exact .inr (congrArg (Path.ofText directory).join (spelling.of_text relative))

/-- The file that every finding of a report belongs to. It is the target if the finding names it,
and otherwise the reported path as seen from the directory. There an absolute path keeps its own
normal text, whatever the directory; a relative one goes on from the directory with all its parts;
and every spelling of the name is the target. So a finding reported in such a spelling and one
reported for the target by its full name come to the same diagnostic if they say the same. -/
theorem findings_attributed (directory name : String) :
    (∀ line f d, Reported (.within directory name) line f d →
      (line = f.shown line ∨ line = f.shown line ++ ['\n']) ∧
      (Names (.within directory name) line f → d.file = (Target.within directory name).name) ∧
      (¬Names (.within directory name) line f →
        d.file = (Target.within directory name).locate (String.ofList f.path))) ∧
    (∀ reported, (Path.ofText reported).isAbsolute = true → ∀ target : Target,
      target.locate reported = (Path.ofText reported).text) ∧
    (∀ reported, (Path.ofText reported).isAbsolute = false →
      Path.ofText directory ∈
          (Path.ofText ((Target.within directory name).locate reported)).upward ∧
        (Path.ofText ((Target.within directory name).locate reported)).parts =
          (Path.ofText directory).parts ++ (Path.ofText reported).parts) ∧
    ((Path.ofText name).isAbsolute = false →
      (∀ reported, Path.Spelling name.toList reported.toList →
        (Target.within directory name).locate reported = (Target.within directory name).name) ∧
      ∀ line line' f f' d d', Reported (.within directory name) line f d →
        Reported (.within directory name) line' f' d' → Path.Spelling name.toList f.path →
        f'.path = (Target.within directory name).name.toList →
        f.line = f'.line → f.code = f'.code → f.message = f'.message →
        d = d' ∧ d.file = (Target.within directory name).name) := by
  refine ⟨fun line f d found => ⟨shown_or_feed found.read, found.of_named, found.of_unnamed⟩,
    fun reported absolute target => Target.locate_absolute absolute target, ?_,
    fun relative => ⟨fun reported spelling => Target.locate_spelling relative spelling, ?_⟩⟩
  · intro reported relative
    rw [Target.locate_relative relative, Path.mem_upward_iff]
    exact ⟨⟨rfl, List.prefix_append _ _⟩, rfl⟩
  · intro line line' f f' d d' found found' spelling full number code message
    have file := found.of_spelling relative spelling
    have file' := found'.of_named (.inl full)
    exact ⟨found.eq_of_same found' number code message (file.trans file'.symm), file⟩

/-- A line about the target, in a roundabout spelling. -/
def roundabout : List Char := "./tasks//./main.yml:3: [E301] Commands".toList

/-- A line about the target by its full name. -/
def inFull : List Char := "/work/tasks/main.yml:3: [E301] Commands".toList

theorem roundabout_spelling :
    Path.Spelling "tasks/main.yml".toList "./tasks//./main.yml".toList :=
  .dotBehind (a := "./tasks/".toList) (b := "main.yml".toList)
    (.slashAgain (a := "./tasks".toList) (b := "main.yml".toList) (.dotInFront .plain))

theorem roundabout_attributed :
    ∃ f f' d d', Reported (.within "/work" "tasks/main.yml") roundabout f d ∧
      Reported (.within "/work" "tasks/main.yml") inFull f' d' ∧
      Path.Spelling "tasks/main.yml".toList f.path ∧ f.path ≠ f'.path ∧
      d = d' ∧ d.file = "/work/tasks/main.yml" := by
  have found : Reported (.within "/work" "tasks/main.yml") roundabout
      ⟨"./tasks//./main.yml".toList, ['3'], "E301".toList, "Commands".toList, []⟩
      ⟨.warning, "Commands", "/work/tasks/main.yml", ⟨⟨2, 0⟩, ⟨2, 1⟩⟩, some "E301"⟩ :=
    ⟨by decide +kernel, by decide +kernel⟩
  have found' : Reported (.within "/work" "tasks/main.yml") inFull
      ⟨"/work/tasks/main.yml".toList, ['3'], "E301".toList, "Commands".toList, []⟩
      ⟨.warning, "Commands", "/work/tasks/main.yml", ⟨⟨2, 0⟩, ⟨2, 1⟩⟩, some "E301"⟩ :=
    ⟨by decide +kernel, by decide +kernel⟩
  have relative : (Path.ofText "tasks/main.yml").isAbsolute = false := by decide
  have full : "/work/tasks/main.yml".toList =
      (Target.within "/work" "tasks/main.yml").name.toList := by decide
  obtain ⟨_, _, _, spelled⟩ := findings_attributed "/work" "tasks/main.yml"
  obtain ⟨_, same⟩ := spelled relative
  obtain ⟨alike, _⟩ := same _ _ _ _ _ _ found found' roundabout_spelling full rfl rfl rfl
  exact ⟨_, _, _, _, found, found', roundabout_spelling, by decide, alike, rfl⟩

end Finding

end PlaybookLint
