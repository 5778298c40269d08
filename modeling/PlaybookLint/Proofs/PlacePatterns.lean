import PlaybookLint.Proofs.PatternForms

/-!
The patterns by which a failure tells where it is: a file in which an error appears to be, a line and a
column in words, a line of a YAML file and what is said there.
-/

namespace PlaybookLint.Pattern

open Failure

/-! ### A line and a column in words -/

/-- A number in a group of its own. -/
def Node.number (group : Nat) : Node := .severalIn group digitTest

/-- A line and a column in words, behind the first word. -/
def Node.placeRest (line column : Nat) : Node :=
  .both (.one blankTest) (.both (.number line) (.phrase ",".toList (.both (.one blankTest)
    (.phrase "column".toList (.both (.one blankTest) (.both (.number column) .empty))))))

/-- What the groups up to `count` took where the first two of them took part. -/
def pair (count : Nat) (place : List Char × List Char) : List (Option String) :=
  (List.range count).map fun
    | 0 => some (String.ofList place.1)
    | 1 => some (String.ofList place.2)
    | _ => none

section Reading

variable {whole : List Char} {onward : Onward} {notes : Notes} {s : List Char}

theorem read_number (whole : List Char) (group : Nat) (ends : onward.Ends Text.isDecimalDigit) :
    (Node.number group).read whole onward notes s = (digits? s).bind fun run =>
      onward ((notes.note (2 * group - 2) s).note (2 * group - 1) run.2) run.2 := by
  rw [← digit_test_accepts] at ends
  rw [Node.number, read_several_in whole group ends, digit_test_accepts, digits_eq]

/-- What is noted of a line and a column. -/
theorem read_place (whole s : List Char) :
    (Node.placeRest 1 2).read whole noteAll [] s = (afterBlank? s).bind fun first =>
      (digits? first).bind fun line => (after? ",".toList line.2).bind fun s =>
        (afterBlank? s).bind fun s => (after? "column".toList s).bind fun s =>
          (afterBlank? s).bind fun second => (digits? second).bind fun column =>
            some [some first, some line.2, some second, some column.2] := by
  rw [Node.placeRest]
  refine (read_blank whole).trans (Option.bind_congr fun first _ => ?_)
  refine (read_number whole 1 (phrase_ends _ _ (by decide +kernel))).trans
    (Option.bind_congr fun line _ => ?_)
  refine (read_phrase whole ",".toList _).trans (Option.bind_congr fun s _ => ?_)
  refine (read_blank whole).trans (Option.bind_congr fun s _ => ?_)
  refine (read_phrase whole "column".toList _).trans (Option.bind_congr fun s _ => ?_)
  refine (read_blank whole).trans (Option.bind_congr fun second _ => ?_)
  exact read_number whole 2 (note_all_ends _)

theorem groups_pair (count : Nat) {first second : List Char} {line column : List Char × List Char}
    (read : digits? first = some line) (read' : digits? second = some column) :
    Notes.groups [some first, some line.2, some second, some column.2] count
      = pair count (line.1, column.1) := by
  refine List.map_congr_left fun i _ => ?_
  match i with
  | 0 => simp [Notes.taken, several_eq_take read]
  | 1 => simp [Notes.taken, several_eq_take read']
  | i + 2 =>
    have beyond : 4 ≤ 2 * (i + 2 + 1) - 2 := by omega
    rw [Notes.taken, List.getElem?_eq_none (by simpa using beyond)]
    rfl

theorem tell_place (whole : List Char) (count : Nat) (s : List Char) :
    ((Node.phrase "line".toList (.placeRest 1 2)).read whole noteAll [] s).map (·.groups count)
      = (lineColumnHere s).map (pair count) := by
  rw [read_phrase, lineColumnHere]
  simp only [read_place, Option.bind_eq_bind, Option.map_bind, Function.comp_def]
  refine Option.bind_congr fun s _ => Option.bind_congr fun first _ =>
    Option.bind_congr fun line read => Option.bind_congr fun s _ => Option.bind_congr fun s _ =>
    Option.bind_congr fun s _ => Option.bind_congr fun second _ =>
    Option.bind_congr fun column read' => ?_
  exact congrArg some (groups_pair count read read')

/-! ### A line of a YAML file -/

/-- The rest of the ending of a YAML file's name, behind its first letter. -/
def Node.yamlRest (next : Node) : Node :=
  .both (.span false .greedy 0 (some 1) (.code false 97) (some 109)) (.phrase "ml:".toList next)

/-- The letter that may be left out is there or not; the ending that follows tells which. -/
theorem read_yaml_rest (whole : List Char) (next : Node) :
    (Node.yamlRest next).read whole onward notes s
      = ((after? "ml:".toList s).or (after? "aml:".toList s)).bind (next.read whole onward notes) := by
  have read : (Node.yamlRest next).read whole onward notes s = takeMost (.code false 'a'.toNat)
      (whereFits ("ml:".toList.head?.map Char.toNat)
        ((Node.phrase "ml:".toList next).read whole onward notes)) s 0 (some 1) := rfl
  have letters : "aml:".toList = 'a' :: "ml:".toList := rfl
  have first : "ml:".toList = 'm' :: "l:".toList := rfl
  rw [read, where_fits_phrase]
  cases s with
  | nil => rfl
  | cons c rest =>
    rw [takeMost, code_accepts, letters]
    by_cases there : 'a' = c
    · subst there
      have once : takeMost (.code false 'a'.toNat)
          ((Node.phrase "ml:".toList next).read whole onward notes) rest 0 (some 0)
          = (Node.phrase "ml:".toList next).read whole onward notes rest := by
        cases rest <;> rfl
      have unread : after? "ml:".toList ('a' :: rest) = none := by
        rw [first, after_none_of_ne (by decide)]
      have unread' : (Node.phrase "ml:".toList next).read whole onward notes ('a' :: rest) = none := by
        rw [read_phrase, unread]
        rfl
      rw [after_cons, beq_self_eq_true, unread, unread']
      simp only [mayRepeat, Bool.true_and, if_true, Nat.zero_sub, Option.map_some, Nat.sub_self,
        once, read_phrase, Option.or_none, Option.none_or]
    · rw [after_none_of_ne there, Option.or_none, beq_eq_false_iff_ne.mpr there]
      simp [read_phrase]

theorem read_yaml (whole : List Char) (next : Node) :
    (Node.phrase ".y".toList (.yamlRest next)).read whole onward notes s
      = ((after? ".yml:".toList s) <|> (after? ".yaml:".toList s)).bind
        (next.read whole onward notes) := by
  have short : ".yml:".toList = ".y".toList ++ "ml:".toList := by decide
  have long : ".yaml:".toList = ".y".toList ++ "aml:".toList := by decide
  rw [read_phrase, short, long, after_append, after_append]
  cases after? ".y".toList s with
  | none => rfl
  | some s =>
    simp only [Option.bind_some, read_yaml_rest, Option.orElse_eq_orElse, ← Option.or_eq_orElse]

/-- The rest of a line that follows a number and a space, in the first group. -/
def Node.messageRest : Node :=
  .both (.several digitTest (some 32)) (.phrase " ".toList (.both (.lineIn 1) .empty))

theorem up_to_line_end (s : List Char) :
    upToLast (fun _ => true) s = some (s.takeWhile (· != '\n')) := by
  induction s with
  | nil => rfl
  | cons c rest ih =>
    rw [upToLast, ih, List.takeWhile_cons]
    by_cases feed : c = '\n'
    · simp [feed]
    · simp [feed]

/-- What is noted of a message. -/
theorem read_message (whole s : List Char) :
    Node.messageRest.read whole noteAll [] s = (digits? s).bind fun run =>
      (after? " ".toList run.2).bind fun s => some (noted 1 s (s.takeWhile (· != '\n'))) := by
  have fits : whereFits (some 32) ((Node.phrase " ".toList (.both (.lineIn 1) .empty)).read whole
      noteAll []) = (Node.phrase " ".toList (.both (.lineIn 1) .empty)).read whole noteAll [] :=
    where_fits_phrase " ".toList _
  have line (s : List Char) : (Node.both (.lineIn 1) .empty).read whole noteAll [] s
      = (upToLast (fun _ => true) s).map (noted 1 s) := take_line_until (fun _ => rfl) s
  rw [Node.messageRest, digits_eq, ← digit_test_accepts]
  refine (read_several whole fun _ c rest digit => ?_).trans (Option.bind_congr fun run _ => ?_)
  · rw [digit_test_accepts] at digit
    have apart : ' ' ≠ c := by
      rintro rfl
      exact absurd digit (by decide +kernel)
    have unread : after? " ".toList (c :: rest) = none := after_none_of_ne apart [] rest
    rw [fits, read_phrase, unread]
    rfl
  · refine (congrFun fits run.2).trans ((read_phrase whole _ _).trans (Option.bind_congr fun s _ => ?_))
    rw [line, up_to_line_end]
    rfl

theorem tell_message (whole : List Char) (s : List Char) :
    ((Node.phrase ".y".toList (.yamlRest .messageRest)).read whole noteAll [] s).map (·.groups 1)
      = (yamlMessageHere s).map (sole 1 1) := by
  rw [read_yaml, yamlMessageHere, yamlLineHere]
  simp only [Option.bind_eq_bind, Option.map_bind, Option.bind_assoc, Function.comp_def, read_message]
  refine Option.bind_congr fun s _ => Option.bind_congr fun run _ => Option.bind_congr fun s _ => ?_
  exact congrArg some (groups_noted Nat.one_pos (List.takeWhile_prefix _))

end Reading

/-! ### What the patterns find -/

def errorFileSource : String := "The error appears to be in '(.*)':"

def lineColumnSource : String := "line\\s(\\d+),\\scolumn\\s(\\d+)"

def yamlMessageSource : String := "\\.ya?ml:\\d+ (.*)"

def taskFileSource : String := "The error appears to be in '(.*)':|parse task at (.*):\\d+"

def taskLineSource : String := "line\\s(\\d+),\\scolumn\\s(\\d+)|\\.ya?ml:(\\d+)"

set_option maxRecDepth 10000

theorem error_file_compiled :
    compile Room.usual.patterns errorFileSource
      = .ok ⟨errorFileSource, 1, 30, true, .between errorFileOpening errorFileClosing 1⟩ := by
  cbv

theorem line_column_compiled :
    compile Room.usual.patterns lineColumnSource
      = .ok ⟨lineColumnSource, 2, 16, true, .phrase "line".toList (.placeRest 1 2)⟩ := by
  cbv

theorem yaml_message_compiled :
    compile Room.usual.patterns yamlMessageSource
      = .ok ⟨yamlMessageSource, 1, 7, true, .phrase ".y".toList (.yamlRest .messageRest)⟩ := by
  cbv

theorem task_file_compiled :
    compile Room.usual.patterns taskFileSource
      = .ok ⟨taskFileSource, 2, 16, true,
        .both (.optionBetween errorFileOpening errorFileClosing 1 (.option "parse task at ".toList
          (.both (.lineIn 2) (.phrase ":".toList (.both (.several digitTest none) .empty)))
          .nothing)) .empty⟩ := by
  cbv

theorem task_line_compiled :
    compile Room.usual.patterns taskLineSource
      = .ok ⟨taskLineSource, 3, 6, true,
        .both (.option "line".toList (.placeRest 1 2) (.option ".y".toList
          (.yamlRest (.both (.number 3) .empty)) .nothing)) .empty⟩ := by
  cbv

theorem error_file_told : Tells errorFileSource fun text =>
    (errorFile? text.toList).map (sole 1 1) :=
  .of_here error_file_compiled
    ⟨⟨_, .between Nat.one_pos (Nat.zero_le _) _ _⟩, by cbv, fun _ => by decide⟩
    _ (fun whole s => tell_between whole _ _ _ Nat.one_pos s) fun text => first_place_map _ _ _

theorem Tidy.placeRest {lo line column : Nat} (numbered : 0 < line) (free : lo ≤ 2 * line - 2)
    (later : line < column) : Tidy lo (.placeRest line column) (2 * column) :=
  .both (.one _) (.both (.group numbered free (.both (.greedy _ _ _ _ _) .empty))
    (.phrase (.both (.one _) (.phrase (.both (.one _)
      (.both (.group (by omega) (by omega) (.both (.greedy _ _ _ _ _) .empty)) .empty)) _)) _))

theorem Tidy.yamlRest {lo hi : Nat} {next : Node} (tidy : Tidy lo next hi) :
    Tidy lo (.yamlRest next) hi := .both (.greedy _ _ _ _ _) (.phrase tidy _)

theorem line_column_told : Tells lineColumnSource fun text =>
    (lineColumn? text.toList).map (pair 2) :=
  .of_here line_column_compiled
    ⟨⟨_, .phrase (.placeRest Nat.one_pos (Nat.zero_le _) (by decide)) _⟩, by cbv, fun _ => by decide⟩
    _ (fun whole s => tell_place whole 2 s) fun text => first_place_map _ _ _

theorem yaml_message_told : Tells yamlMessageSource fun text =>
    (yamlMessage? text.toList).map (sole 1 1) :=
  .of_here yaml_message_compiled
    ⟨⟨_, .phrase (.yamlRest (.both (.greedy _ _ _ _ _) (.phrase (.both
      (.group Nat.one_pos (Nat.zero_le _) (.both (.greedy _ _ _ _ _) .empty)) .empty) _))) _⟩,
      by cbv, fun _ => by decide⟩
    _ (fun whole s => tell_message whole s) fun text => first_place_map _ _ _

/-! ### The first group that took something -/

/-- The first group that took part and took something. -/
def firstFilled? (groups : Groups) : Option String :=
  groups.findSome? fun group => group.filter (· ≠ "")

theorem filled_eq (taken : List Char) :
    (some (String.ofList taken)).filter (· ≠ "") = nonEmpty? (some taken) := by
  cases taken with
  | nil => rfl
  | cons c rest =>
    simp [nonEmpty?, Option.filter]

theorem find_sole {α : Type} (k : Nat) (told : Option α) (places : List Nat) :
    (places.findSome? fun i => if i = k then told else none) = if k ∈ places then told else none := by
  induction places with
  | nil => rfl
  | cons i places ih =>
    rw [List.findSome?_cons, ih]
    by_cases here : i = k
    · cases told <;> simp [here]
    · simp [here, Ne.symm here]

theorem first_filled_sole {count group : Nat} (numbered : 0 < group) (among : group ≤ count)
    (taken : List Char) : firstFilled? (sole count group taken) = nonEmpty? (some taken) := by
  obtain ⟨k, rfl⟩ := Nat.exists_eq_add_one_of_ne_zero (Nat.ne_of_gt numbered)
  have each : (fun group : Option String => group.filter (· ≠ "")) ∘
      (fun i => if i + 1 = k + 1 then some (String.ofList taken) else none)
      = fun i => if i = k then nonEmpty? (some taken) else none := by
    funext i
    by_cases same : i = k
    · rw [Function.comp, if_pos (congrArg (· + 1) same), if_pos same]
      exact filled_eq taken
    · rw [Function.comp, if_neg (mt Nat.add_right_cancel same), if_neg same]
      rfl
  rw [firstFilled?, sole, List.findSome?_map, each, find_sole, if_pos (List.mem_range.mpr among)]

/-- Where the groups that take part take what a reader reads, the first that took something took what
the reader found. -/
theorem first_filled_eq {here : List Char → Option Groups} {read : List Char → Option (List Char)}
    (same : ∀ s, (here s).map firstFilled? = (read s).map fun taken => nonEmpty? (some taken))
    (s : List Char) : (firstPlace here s).bind firstFilled? = nonEmpty? (firstPlace read s) := by
  have found : (firstPlace here s).map firstFilled?
      = (firstPlace read s).map fun taken => nonEmpty? (some taken) := by
    rw [← first_place_map, ← first_place_map, funext same]
  generalize firstPlace here s = groups, firstPlace read s = taken at found ⊢
  cases groups with
  | none =>
    cases taken with
    | none => rfl
    | some _ => cases found
  | some groups =>
    cases taken with
    | none => cases found
    | some _ => exact Option.some.inj found

theorem several_is_some (kind : Char → Bool) (s : List Char) :
    (several? kind s).isSome = s.head?.any kind := by
  cases s with
  | nil => rfl
  | cons c rest => cases holds : kind c <;> simp [several?, holds]

theorem is_colon_digit_eq (s : List Char) :
    isColonDigit s = ((after? ":".toList s).bind digits?).isSome := by
  have colon : ":".toList = [':'] := by decide
  rw [colon]
  cases s with
  | nil => rfl
  | cons c rest =>
    by_cases there : ':' = c
    · subst there
      rw [after_cons, beq_self_eq_true, if_pos rfl, digits_eq]
      refine Eq.trans ?_ (several_is_some _ rest).symm
      cases rest <;> rfl
    · rw [after_none_of_ne there]
      cases rest with
      | nil => simp [isColonDigit]
      | cons d rest => simp [isColonDigit, Ne.symm there]

theorem colon_digit_told (whole : List Char) (notes : Notes) (s : List Char) :
    (Node.phrase ":".toList (.both (.several digitTest none) .empty)).read whole noteAll notes s
      = if isColonDigit s then some notes else none := by
  have number (s : List Char) : (Node.both (.several digitTest none) .empty).read whole noteAll notes s
      = (digits? s).bind fun _ => some notes := by
    rw [digits_eq, ← digit_test_accepts]
    exact read_several whole fun unread => by cases unread
  rw [read_phrase, funext number, is_colon_digit_eq]
  cases after? ":".toList s with
  | none => rfl
  | some s =>
    rw [Option.bind_some, Option.bind_some]
    cases digits? s <;> rfl

theorem task_file_told : ∃ find, Tells taskFileSource find ∧ ∀ text,
    (find text).bind firstFilled? = nonEmpty? (firstPlace taskFileHere text.toList) := by
  refine ⟨_, .of_here task_file_compiled ⟨⟨_, .both (.optionBetween (by decide) (by decide)
    (.option (.both (.group (by decide) (by decide) (.both (.greedy _ _ _ _ _) .empty))
      (.phrase (.both (.greedy _ _ _ _ _) .empty) _)) .nothing _)) .empty⟩, by cbv, fun _ => by decide⟩
    (fun s => ((betweenHere errorFileOpening errorFileClosing s).map (sole 2 1)).or
      (((after? "parse task at ".toList s).bind (upToLast isColonDigit)).map (sole 2 2)))
    (fun whole s => ?_) fun _ => rfl, fun text => first_filled_eq (fun s => ?_) text.toList⟩
  · have other := tell_line whole "parse task at " 2 Nat.two_pos (colon_digit_told whole) s
    rw [tellHere, readHere, read_both_empty, read_option_between, read_option, Option.map_or,
      Option.map_or, tell_between whole _ _ 2 Nat.one_pos, other]
    exact congrArg _ (Option.or_none)
  · rw [taskFileHere]
    cases betweenHere errorFileOpening errorFileClosing s with
    | some taken => exact congrArg some (first_filled_sole (by decide) (by decide) taken)
    | none =>
      cases (after? "parse task at ".toList s).bind (upToLast isColonDigit) with
      | some taken => exact congrArg some (first_filled_sole (by decide) (by decide) taken)
      | none => rfl

theorem first_filled_pair (count : Nat) {place : List Char × List Char} (filled : place.1 ≠ []) :
    firstFilled? (pair (count + 1) place) = nonEmpty? (some place.1) := by
  have kept : nonEmpty? (some place.1) = some (String.ofList place.1) := by simp [nonEmpty?, filled]
  have first := (filled_eq place.1).trans kept
  rw [firstFilled?, pair, List.range_succ_eq_map, List.map_cons, List.findSome?_cons]
  simp only [first, kept]

theorem tell_number (whole : List Char) (s : List Char) :
    ((Node.both (.number 3) .empty).read whole noteAll [] s).map (·.groups 3)
      = (digits? s).map fun run => sole 3 3 run.1 := by
  rw [read_both_empty, read_number whole 3 (note_all_ends _)]
  cases read : digits? s with
  | none => rfl
  | some run =>
    obtain ⟨digits, rest⟩ := run
    obtain ⟨-, -, rfl, -⟩ := (digits_eq_some_iff s digits rest).mp read
    have last : (noted 3 (digits ++ rest) digits).groups 3 = sole 3 3 digits :=
      groups_noted (by decide) (List.prefix_append digits rest)
    rw [noted, List.drop_left] at last
    exact congrArg some last

theorem task_line_told : ∃ find, Tells taskLineSource find ∧ ∀ text,
    (find text).bind firstFilled? = nonEmpty? (firstPlace taskLineHere text.toList) := by
  refine ⟨_, .of_here task_line_compiled ⟨⟨_, .both (.option (.placeRest (by decide) (by decide)
    (by decide)) (.option (.yamlRest (.both (.group (by decide) (by decide)
      (.both (.greedy _ _ _ _ _) .empty)) .empty)) .nothing _) _) .empty⟩, by cbv, fun _ => by decide⟩
    (fun s => ((lineColumnHere s).map (pair 3)).or ((yamlLineHere s).map fun run => sole 3 3 run.1))
    (fun whole s => ?_) fun _ => rfl, fun text => first_filled_eq (fun s => ?_) text.toList⟩
  · have other : ((Node.phrase ".y".toList (.yamlRest (.both (.number 3) .empty))).read whole noteAll
        [] s).map (·.groups 3) = (yamlLineHere s).map fun run => sole 3 3 run.1 := by
      rw [read_yaml, Option.map_bind, yamlLineHere]
      simp only [Option.bind_eq_bind, Option.map_bind]
      exact Option.bind_congr fun s _ => tell_number whole s
    rw [tellHere, readHere, read_both_empty, read_option, read_option, Option.map_or, Option.map_or,
      tell_place, other]
    exact congrArg _ Option.or_none
  · rw [taskLineHere]
    cases read : lineColumnHere s with
    | some place =>
      have filled := ((line_column_here_eq_some_iff s place).mp read).numbered.1
      exact congrArg some (first_filled_pair 2 filled)
    | none =>
      cases yamlLineHere s with
      | some run => exact congrArg some (first_filled_sole (by decide) (by decide) run.1)
      | none => rfl

end PlaybookLint.Pattern
