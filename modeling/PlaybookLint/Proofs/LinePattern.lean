import PlaybookLint.Proofs.PatternForms
import PlaybookLint.Proofs.ReportLine

/-!
The pattern of a line of a report. It begins at the start of the line, and what it finds in its groups
is the finding that is read: path, line number, code and message.
-/

namespace PlaybookLint.Pattern

open Failure

/-- A character of a code. -/
def codeTest : CharTest := .set true false [.code 93, .category .space false]

/-- What follows the path of a finding. -/
def Node.afterPath : Node :=
  .phrase ":".toList (.both (.severalIn 2 digitTest) (.phrase ":".toList (.both (.one blankTest)
    (.phrase "[".toList (.both (.severalIn 3 codeTest) (.phrase "]".toList (.both (.one blankTest)
      (.both (.lineIn 4) (.both (.edge .textEndOrLastLineFeed) .empty)))))))))

/-- A finding, from its path on. -/
def Node.finding : Node :=
  .both (.group 1 (.both (.span false .lazy 1 none .notLineFeed none) .empty)) .afterPath

def findingSource : String :=
  "^(?P<path>.+?):(?P<line>\\d+):\\s\\[(?P<code>[^\\]\\s]+)\\]\\s(?P<message>.*)$"

set_option maxRecDepth 10000 in
theorem finding_compiled :
    compile Room.usual.patterns findingSource
      = .ok ⟨findingSource, 4, 9, false, .both (.edge .textStart) .finding⟩ := by
  cbv

/-! ### Parts of a finding -/

theorem code_test_accepts : codeTest.accepts = Finding.isCodeChar := by
  funext c
  have bracket : (c.toNat == 93) = (c == ']') := by
    rw [Bool.eq_iff_iff, beq_iff_eq, beq_iff_eq]
    exact Char.toNat_inj (d := ']')
  simp only [codeTest, CharTest.accepts, List.any_cons, List.any_nil, CharTest.holdsExactly, bracket,
    Category.holds, Char.ofNat_toNat, Bool.false_and, Bool.false_eq_true, if_false, Bool.bne_false,
    Bool.or_false, Bool.bne_true, Bool.not_or, Finding.isCodeChar]
  rfl

theorem line_eq (s : List Char) :
    Finding.line? s = (after? ":".toList s).bind fun s => (digits? s).bind fun run =>
      (after? ":".toList run.2).map fun s => (run.1, s) := by
  refine Option.ext fun ⟨digits, rest⟩ => ?_
  simp only [Finding.line_eq_some_iff, Option.bind_eq_some_iff, Option.map_eq_some_iff,
    after_eq_some_iff, Prod.exists, digits_eq_some_iff]
  constructor
  · rintro ⟨filled, decimal, rfl⟩
    refine ⟨_, rfl, digits, _, ⟨filled, decimal, rfl, ?_⟩, rest, rfl, rfl⟩
    intro c first
    cases first
    decide +kernel
  · rintro ⟨_, rfl, _, _, ⟨filled, decimal, rfl, -⟩, _, rfl, made⟩
    cases made
    exact ⟨filled, decimal, rfl⟩

theorem code_eq (s : List Char) :
    Finding.code? s = (afterBlank? s).bind fun s => (after? "[".toList s).bind fun s =>
      (several? Finding.isCodeChar s).bind fun run => (after? "]".toList run.2).bind fun s =>
        (afterBlank? s).map fun s => (run.1, s) := by
  refine Option.ext fun ⟨code, rest⟩ => ?_
  simp only [Finding.code_eq_some_iff, Option.bind_eq_some_iff, Option.map_eq_some_iff,
    after_eq_some_iff, after_blank_eq_some_iff, Prod.exists, several_eq_some_iff]
  constructor
  · rintro ⟨filled, bare, before, after, blank, blank', rfl⟩
    refine ⟨_, ⟨before, blank, rfl⟩, _, rfl, code, _, ⟨filled, bare, rfl, ?_⟩, _, rfl, rest,
      ⟨after, blank', rfl⟩, rfl⟩
    intro c first
    cases first
    decide
  · rintro ⟨_, ⟨before, blank, rfl⟩, _, rfl, _, _, ⟨filled, bare, rfl, -⟩, _, rfl, _,
      ⟨after, blank', rfl⟩, made⟩
    cases made
    exact ⟨filled, bare, before, after, blank, blank', rfl⟩

/-- The message goes up to the end of the line, which must be the end of the text but for a line
feed. -/
theorem read_message_end (whole : List Char) (notes : Notes) (s : List Char) :
    (Node.both (.lineIn 4) (.both (.edge .textEndOrLastLineFeed) .empty)).read whole noteAll notes s
      = (Finding.messageAndRest? s).map fun message => (notes.note 6 s).note 7 message.2 := by
  have read : (Node.both (.lineIn 4) (.both (.edge .textEndOrLastLineFeed) .empty)).read whole noteAll
      notes s = takeMost .notLineFeed (fun rest =>
        if rest.isEmpty || rest == ['\n'] then some ((notes.note 6 s).note 7 rest) else none) s 0
        none := rfl
  rw [read, take_run]
  · simp only [Finding.messageAndRest?]
    show (if (s.dropWhile (· != '\n')).isEmpty || s.dropWhile (· != '\n') == ['\n'] then _ else _) = _
    split <;> rfl
  · intro _ c rest inside
    have other : c ≠ '\n' := by simpa [CharTest.accepts] using inside
    simp [other]

/-! ### From the path on -/

/-- The groups of a finding. -/
def groupsOf (f : Finding) : Groups :=
  [f.path, f.line, f.code, f.message].map fun part => some (String.ofList part)

/-- What is noted of a finding whose path is complete. -/
theorem read_after_path (whole s : List Char) :
    Node.afterPath.read whole noteAll [some whole, some s] s = (after? ":".toList s).bind fun s₁ =>
      (digits? s₁).bind fun line => (after? ":".toList line.2).bind fun s₂ =>
        (afterBlank? s₂).bind fun s₃ => (after? "[".toList s₃).bind fun s₄ =>
          (several? Finding.isCodeChar s₄).bind fun code => (after? "]".toList code.2).bind fun s₅ =>
            (afterBlank? s₅).bind fun s₆ => (Finding.messageAndRest? s₆).map fun message =>
              [some whole, some s, some s₁, some line.2, some s₄, some code.2, some s₆,
                some message.2] := by
  have digit_end : digitTest.accepts ':' = false := by
    rw [digit_test_accepts]
    decide +kernel
  have code_end : codeTest.accepts ']' = false := by
    rw [code_test_accepts]
    decide
  rw [Node.afterPath, digits_eq, ← digit_test_accepts, ← code_test_accepts]
  refine (read_phrase whole ":".toList _).trans (Option.bind_congr fun s₁ _ => ?_)
  refine (read_several_in whole 2 (phrase_ends _ _ digit_end)).trans
    (Option.bind_congr fun line _ => ?_)
  have numbered : (Notes.note [some whole, some s] (2 * 2 - 2) s₁).note (2 * 2 - 1) line.2
      = [some whole, some s, some s₁, some line.2] := rfl
  rw [numbered]
  refine (read_phrase whole ":".toList _).trans (Option.bind_congr fun s₂ _ => ?_)
  refine (read_blank whole).trans (Option.bind_congr fun s₃ _ => ?_)
  refine (read_phrase whole "[".toList _).trans (Option.bind_congr fun s₄ _ => ?_)
  refine (read_several_in whole 3 (phrase_ends _ _ code_end)).trans
    (Option.bind_congr fun code _ => ?_)
  have coded : (Notes.note [some whole, some s, some s₁, some line.2] (2 * 3 - 2) s₄).note (2 * 3 - 1)
      code.2 = [some whole, some s, some s₁, some line.2, some s₄, some code.2] := rfl
  rw [coded]
  refine (read_phrase whole "]".toList _).trans (Option.bind_congr fun s₅ _ => ?_)
  refine (read_blank whole).trans (Option.bind_congr fun s₆ _ => ?_)
  refine (read_message_end whole _ s₆).trans (Option.map_congr fun message _ => ?_)
  rfl

theorem message_eq_take {s : List Char} {message : List Char × List Char}
    (read : Finding.messageAndRest? s = some message) :
    s.take (s.length - message.2.length) = message.1 := by
  simp only [Finding.messageAndRest?, Option.ite_none_right_eq_some, Option.some_inj] at read
  obtain ⟨-, rfl⟩ := read
  have whole : s.takeWhile (· != '\n') ++ s.dropWhile (· != '\n') = s :=
    List.takeWhile_append_dropWhile
  generalize s.takeWhile (· != '\n') = message, s.dropWhile (· != '\n') = rest at whole ⊢
  subst whole
  simp

theorem tell_after_path {whole front s : List Char} (cut : whole = front ++ s) :
    (Node.afterPath.read whole noteAll [some whole, some s] s).map (·.groups 4)
      = (Finding.afterPath? s).map fun f => groupsOf { f with path := front ++ f.path } := by
  rw [read_after_path, Finding.afterPath?]
  simp only [line_eq, code_eq, Option.bind_eq_bind, Option.map_bind, Option.bind_assoc,
    Function.comp_def, Option.map_map, Option.bind_map]
  refine Option.bind_congr fun s₁ _ => Option.bind_congr fun line numbered =>
    Option.bind_congr fun s₂ _ => Option.bind_congr fun s₃ _ => Option.bind_congr fun s₄ _ =>
    Option.bind_congr fun code coded => Option.bind_congr fun s₅ _ => Option.bind_congr fun s₆ _ => ?_
  have path : whole.take (whole.length - s.length) = front := by
    subst cut
    simp
  cases told : Finding.messageAndRest? s₆ with
  | none => rfl
  | some message =>
    have groups : Notes.groups [some whole, some s, some s₁, some line.2, some s₄, some code.2,
        some s₆, some message.2] 4
        = [some (String.ofList (whole.take (whole.length - s.length))),
          some (String.ofList (s₁.take (s₁.length - line.2.length))),
          some (String.ofList (s₄.take (s₄.length - code.2.length))),
          some (String.ofList (s₆.take (s₆.length - message.2.length)))] := rfl
    rw [path, several_eq_take numbered, several_eq_take coded, message_eq_take told] at groups
    have whole_path : front ++ ([] : List Char) = front := List.append_nil front
    simp only [Option.map_some, groups, Option.bind_some, Option.pure_def, whole_path, groupsOf,
      List.map_cons, List.map_nil]

/-! ### Where the path ends -/

/-- A path goes on until what follows it can be read. -/
theorem tell_path {whole front s : List Char} (cut : whole = front ++ s) :
    (takeLeast .notLineFeed (fun s => Node.afterPath.read whole noteAll [some whole, some s] s) s 0).map
        (·.groups 4)
      = (Finding.shortest? s).map fun f => groupsOf { f with path := front ++ f.path } := by
  induction s generalizing front with
  | nil => rfl
  | cons c rest ih =>
    have later := @ih (front ++ [c]) (by rw [cut, List.append_assoc]; rfl)
    rw [takeLeast, if_pos rfl, Option.map_or, tell_after_path cut, Finding.shortest?]
    cases Finding.afterPath? (c :: rest) with
    | some f => rfl
    | none =>
      rw [Option.map_none, Option.none_or]
      by_cases feed : c = '\n'
      · subst feed
        rfl
      · have inside : CharTest.notLineFeed.accepts c = true := by simp [CharTest.accepts, feed]
        simp only [inside, if_true, later, beq_eq_false_iff_ne.mpr feed, Bool.false_eq_true, if_false,
          Option.map_map]
        refine Option.map_congr fun f _ => ?_
        simp [Finding.lengthen, groupsOf]

/-- At the start of the text only the first place counts. -/
theorem first_place_at_start {α : Type} {here : List Char → Option α} {whole : List Char}
    (silent : ∀ s, s.length < whole.length → here s = none) :
    firstPlace here whole = here whole := by
  cases whole with
  | nil => rfl
  | cons c rest =>
    rw [firstPlace]
    cases here (c :: rest) with
    | some a => rfl
    | none =>
      refine (first_place_eq_none_iff (fun _ _ => Iff.rfl) rest).mpr fun before later a cut => ?_
      have shorter : later.length < (c :: rest).length := by
        rw [cut, List.length_cons, List.length_append]
        omega
      simp [silent later shorter]

theorem finding_readable :
    Pattern.Readable ⟨findingSource, 4, 9, false, .both (.edge .textStart) .finding⟩ where
  tidy := ⟨8, .both .textStart (.both
    (.group Nat.one_pos (Nat.zero_le _) (.both (.lazy _ _ _ _) .empty))
    (.phrase (.both (.group (by decide) (by decide) (.both (.greedy _ _ _ _ _) .empty))
      (.phrase (.both (.one _) (.phrase (.both
        (.group (by decide) (by decide) (.both (.greedy _ _ _ _ _) .empty))
        (.phrase (.both (.one _) (.both
          (.group (by decide) (by decide) (.both (.greedy _ _ _ _ _) .empty))
          (.both .lastLineFeed .empty))) _)) _)) _)) _))⟩
  least := by cbv
  front := by simp

theorem tell_finding (whole : List Char) :
    (Node.finding.read whole noteAll [] whole).map (·.groups 4)
      = (Finding.read? whole).map groupsOf := by
  have read : Node.finding.read whole noteAll [] whole = takeLeast .notLineFeed
      (fun s => Node.afterPath.read whole noteAll [some whole, some s] s) whole 1 := rfl
  rw [read]
  cases whole with
  | nil => rfl
  | cons c rest =>
    have later := tell_path (show c :: rest = [c] ++ rest from rfl)
    rw [takeLeast, if_neg Nat.one_ne_zero, Option.none_or, Finding.read?]
    by_cases feed : c = '\n'
    · subst feed
      rfl
    · have inside : CharTest.notLineFeed.accepts c = true := by simp [CharTest.accepts, feed]
      simp only [inside, if_true, Nat.sub_self, later, beq_eq_false_iff_ne.mpr feed,
        Bool.false_eq_true, if_false, Option.map_map]
      exact Option.map_congr fun f _ => rfl

/-- A line is read as what its pattern finds. -/
theorem finding_told : Tells findingSource fun text => (Finding.read? text.toList).map groupsOf := by
  refine ⟨_, finding_compiled, fun text => ?_⟩
  rw [search_reads finding_readable, first_place_at_start]
  · have start : Place.isBefore text.toList text.toList .textStart = true := beq_self_eq_true _
    refine congrArg Except.ok (Eq.trans ?_ (tell_finding text.toList))
    rw [tellHere, readHere]
    simp only [Node.read, start, if_true]
  · intro s shorter
    have inside : Place.isBefore text.toList s .textStart = false :=
      beq_eq_false_iff_ne.mpr (Nat.ne_of_lt shorter)
    rw [tellHere, readHere]
    simp only [Node.read, inside, Bool.false_eq_true, if_false, Option.map_none]

end PlaybookLint.Pattern
