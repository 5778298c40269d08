import PlaybookLint.Failure.Table
import PlaybookLint.Proofs.PatternRun

/-!
Parts that patterns are made of, and what each of them reads: phrases, lines up to a phrase, runs of
digits, blanks, options and groups.
-/

namespace PlaybookLint.Pattern

open Failure

/-! ### Parts of patterns -/

/-- Characters as they stand, and then what follows. -/
def Node.phrase (w : List Char) (next : Node) : Node :=
  w.foldr (fun c node => .both (.one (.code false c.toNat)) node) next

/-- A group with its number. -/
def Node.group (index : Nat) (body : Node) : Node :=
  .both (.mark index false) (.both body (.mark index true))

/-- As much of a line as possible; the character that must come next may be known. -/
def Node.line (next : Option Nat) : Node := .span false .greedy 0 none .notLineFeed next

/-- A decimal digit of any script. -/
def digitTest : CharTest := .set false false [.category .digit false]

/-- A blank of any script. -/
def blankTest : CharTest := .set false false [.category .space false]

/-- As many characters of a kind as possible, at least one. -/
def Node.several (test : CharTest) (next : Option Nat) : Node := .span false .greedy 1 none test next

/-- Several characters of a kind in a group of their own. -/
def Node.severalIn (group : Nat) (test : CharTest) : Node :=
  .group group (.both (.several test none) .empty)

/-- A line in a group of its own. -/
def Node.lineIn (group : Nat) : Node := .group group (.both (.line none) .empty)

/-- An option that begins with a phrase, or others. -/
def Node.option (w : List Char) (next others : Node) : Node :=
  .either false (w.head?.map fun c => .code false c.toNat) (.phrase w next) others

/-- A text between two phrases, in a group of its own. -/
def Node.between (opening closing : String) (group : Nat) : Node :=
  .phrase opening.toList (.both (.lineIn group) (.phrase closing.toList .empty))

/-- The option of such a text, or others. -/
def Node.optionBetween (opening closing : String) (group : Nat) (others : Node) : Node :=
  .option opening.toList (.both (.lineIn group) (.phrase closing.toList .empty)) others

/-- Characters that may be left out, and then what follows. -/
def Node.maybe (part : List Char) (next : Node) : Node :=
  .both (.loop false .greedy 0 (some 1) (.phrase part .empty)) next

section Parts

variable {whole : List Char} {onward : Onward} {notes : Notes} {s : List Char}

theorem code_accepts (c d : Char) : (CharTest.code false c.toNat).accepts d = (c == d) := by
  rw [Bool.eq_iff_iff, beq_iff_eq]
  simp only [CharTest.accepts, Bool.bne_false, beq_iff_eq, Char.toNat_inj]
  exact eq_comm

theorem digit_test_accepts : digitTest.accepts = Text.isDecimalDigit := by
  funext c
  simp [digitTest, CharTest.accepts, CharTest.holdsExactly, Category.holds]

theorem blank_test_accepts : blankTest.accepts = Text.isBlank := by
  funext c
  simp [blankTest, CharTest.accepts, CharTest.holdsExactly, Category.holds]

theorem after_cons (c d : Char) (w rest : List Char) :
    after? (c :: w) (d :: rest) = if c == d then after? w rest else none := by
  cases same : c == d <;> simp [after?, List.isPrefixOf, same]

theorem after_none_of_ne {c d : Char} (apart : c ≠ d) (w rest : List Char) :
    after? (c :: w) (d :: rest) = none := by
  rw [after_cons, beq_eq_false_iff_ne.mpr apart]
  rfl

theorem read_phrase (whole w : List Char) (next : Node) :
    (Node.phrase w next).read whole onward notes s
      = (after? w s).bind (next.read whole onward notes) := by
  induction w generalizing s with
  | nil => rfl
  | cons c w ih =>
    cases s with
    | nil => rfl
    | cons d rest =>
      rw [after_cons]
      simp only [Node.phrase, List.foldr_cons, Node.read, code_accepts]
      split
      next => exact ih
      next => rfl

theorem read_blank (whole : List Char) : (Node.one blankTest).read whole onward notes s
    = (afterBlank? s).bind (onward notes) := by
  cases s with
  | nil => rfl
  | cons c rest =>
    simp only [Node.read, blank_test_accepts, afterBlank?]
    split <;> rfl

/-- The option is tried wherever its first character stands, and cannot be read elsewhere. -/
theorem read_option (w : List Char) (next others : Node) :
    (Node.option w next others).read whole onward notes s
      = ((Node.phrase w next).read whole onward notes s).or (others.read whole onward notes s) := by
  cases w with
  | nil => cases s <;> rfl
  | cons c w =>
    simp only [Node.option, Node.read, List.head?_cons, Option.map_some]
    cases s with
    | nil => rfl
    | cons d rest =>
      rw [frontFits, code_accepts]
      cases same : c == d with
      | true => rfl
      | false => rw [read_phrase, after_cons, same]; rfl

/-- Where nothing can be read further on, what follows is read here. -/
theorem stop_here (here : List Char → Option Notes) (s : List Char) :
    (if (here s).isSome then some ([] : List Char) else none).bind (fun taken =>
      here (s.drop taken.length)) = here s := by
  cases read : here s with
  | none => rfl
  | some notes => simpa using read

/-- A line goes up to the last place where what follows can be read. -/
theorem take_line (here : List Char → Option Notes) (s : List Char) :
    takeMost .notLineFeed here s 0 none
      = (upToLast (fun s => (here s).isSome) s).bind fun taken => here (s.drop taken.length) := by
  induction s with
  | nil => exact (stop_here here []).symm
  | cons c rest ih =>
    rw [takeMost, Nat.zero_sub, Option.map_none, ih, upToLast, if_pos rfl]
    cases feed : c == '\n' with
    | true =>
      have refused : CharTest.notLineFeed.accepts c = false := by
        simpa [CharTest.accepts] using feed
      simpa [refused] using (stop_here here (c :: rest)).symm
    | false =>
      have accepted : CharTest.notLineFeed.accepts c = true := by
        simpa [CharTest.accepts] using feed
      simp only [mayRepeat, accepted, Bool.true_and, if_true, Bool.false_eq_true, if_false]
      cases later : upToLast (fun s => (here s).isSome) rest with
      | none => exact (stop_here here (c :: rest)).symm
      | some taken =>
        obtain ⟨-, ⟨more, rfl, present⟩, -⟩ := up_to_of_last later
        obtain ⟨notes, there⟩ := Option.isSome_iff_exists.mp present
        simp [there]

/-- The same where a test tells whether what follows can be read. -/
theorem take_line_until {here : List Char → Option Notes} {stop : List Char → Bool}
    {tell : List Char → Notes} (told : ∀ s, here s = if stop s then some (tell s) else none)
    (s : List Char) :
    takeMost .notLineFeed here s 0 none
      = (upToLast stop s).map fun taken => tell (s.drop taken.length) := by
  have stops : (fun s => (here s).isSome) = stop := by
    funext s
    rw [told]
    cases stop s <;> rfl
  rw [take_line, stops]
  cases read : upToLast stop s with
  | none => rfl
  | some taken =>
    obtain ⟨-, ⟨more, rfl, holds⟩, -⟩ := up_to_of_last read
    simp [told, holds]

/-- A run of characters is taken as a whole where what follows cannot begin inside it, unless it can
be read behind it as well. -/
theorem take_run {test : CharTest} {here : List Char → Option Notes}
    (stop : here (s.dropWhile test.accepts) = none →
      ∀ c rest, test.accepts c = true → here (c :: rest) = none) :
    takeMost test here s 0 none = here (s.dropWhile test.accepts) := by
  induction s with
  | nil => rfl
  | cons c rest ih =>
    rw [takeMost, Nat.zero_sub, Option.map_none, if_pos rfl]
    cases accepted : test.accepts c with
    | false => simp [accepted]
    | true =>
      rw [List.dropWhile_cons_of_pos accepted] at stop ⊢
      simp only [mayRepeat, Bool.true_and, if_true]
      rw [ih stop]
      cases behind : here (rest.dropWhile test.accepts) with
      | none => exact stop behind c rest accepted
      | some notes => rfl

/-- The same where at least one character must be taken. -/
theorem take_run_one {test : CharTest} {here : List Char → Option Notes}
    (stop : here (s.dropWhile test.accepts) = none →
      ∀ c rest, test.accepts c = true → here (c :: rest) = none) :
    takeMost test here s 1 none
      = if (s.takeWhile test.accepts).isEmpty then none else here (s.dropWhile test.accepts) := by
  cases s with
  | nil => rfl
  | cons c rest =>
    rw [takeMost]
    cases accepted : test.accepts c with
    | false => simp [accepted]
    | true =>
      rw [List.dropWhile_cons_of_pos accepted] at stop ⊢
      simpa [mayRepeat, accepted] using take_run stop

/-- What is taken lies between the two places. -/
theorem several_eq_take {kind : Char → Bool} {run : List Char × List Char}
    (read : several? kind s = some run) : s.take (s.length - run.2.length) = run.1 := by
  obtain ⟨run, rest⟩ := run
  obtain ⟨-, -, rfl, -⟩ := (several_eq_some_iff kind s run rest).mp read
  simp

theorem read_several (whole : List Char) {test : CharTest} {next : Option Nat}
    (stop : whereFits next (onward notes) (s.dropWhile test.accepts) = none →
      ∀ c rest, test.accepts c = true → whereFits next (onward notes) (c :: rest) = none) :
    (Node.several test next).read whole onward notes s
      = (several? test.accepts s).bind fun run => whereFits next (onward notes) run.2 := by
  simp only [Node.several, Node.read, take_run_one stop, several?]
  split <;> rfl

/-- What follows several characters of a kind cannot begin among them, or can always be read. -/
def Onward.Ends (onward : Onward) (kind : Char → Bool) : Prop :=
  (∀ notes c rest, kind c = true → onward notes (c :: rest) = none) ∨
    ∀ notes s, onward notes s ≠ none

theorem read_several_in (whole : List Char) (group : Nat) {test : CharTest}
    (ends : onward.Ends test.accepts) :
    (Node.severalIn group test).read whole onward notes s
      = (several? test.accepts s).bind fun run =>
        onward ((notes.note (2 * group - 2) s).note (2 * group - 1) run.2) run.2 := by
  have read : (Node.severalIn group test).read whole onward notes s
      = (Node.several test none).read whole (fun notes s => onward (notes.note (2 * group - 1) s) s)
        (notes.note (2 * group - 2) s) s := rfl
  rw [read]
  refine read_several whole fun unread c rest accepted => ?_
  obtain stuck | free := ends
  · exact stuck _ c rest accepted
  · exact absurd unread (free _ _)

/-- A phrase that begins with another character ends several of a kind. -/
theorem phrase_ends {kind : Char → Bool} {c : Char} (w : List Char) (next : Node)
    (other : kind c = false) : Onward.Ends ((Node.phrase (c :: w) next).read whole onward) kind := by
  refine .inl fun notes d rest same => ?_
  have apart : c ≠ d := by
    rintro rfl
    rw [other] at same
    cases same
  rw [read_phrase, after_none_of_ne apart]
  rfl

theorem note_all_ends (kind : Char → Bool) : noteAll.Ends kind := .inr fun _ _ read => by cases read

/-- Where the character that must come next begins the phrase that follows, it makes no difference. -/
theorem where_fits_phrase (w : List Char) (next : Node) :
    whereFits (w.head?.map Char.toNat) ((Node.phrase w next).read whole onward notes)
      = (Node.phrase w next).read whole onward notes := by
  funext s
  cases w with
  | nil => rfl
  | cons c w =>
    cases s with
    | nil => rfl
    | cons d rest =>
      rw [whereFits, read_phrase, after_cons, List.head?_cons, Option.map_some, nextFits]
      cases same : c == d with
      | true => simp [beq_iff_eq.mp same]
      | false => exact ite_self none

theorem read_both_empty (node : Node) :
    (Node.both node .empty).read whole onward = node.read whole onward := rfl

end Parts

/-! ### One group -/

/-- What is noted where one group alone took part. -/
def noted (group : Nat) (start taken : List Char) : Notes :=
  (Notes.note [] (2 * group - 2) start).note (2 * group - 1) (start.drop taken.length)

/-- What the groups up to `count` took where one of them alone took part. -/
def sole (count group : Nat) (taken : List Char) : List (Option String) :=
  (List.range count).map fun i => if i + 1 = group then some (String.ofList taken) else none

theorem noted_eq (k : Nat) (start taken : List Char) :
    noted (k + 1) start taken
      = List.replicate (2 * k) none ++ [some start, some (start.drop taken.length)] := by
  have first : 2 * (k + 1) - 2 = 2 * k := by omega
  have second : 2 * (k + 1) - 1 = 2 * k + 1 := by omega
  simp [noted, Notes.note, first, second]

theorem groups_noted {count group : Nat} (numbered : 0 < group) {start taken : List Char}
    (within : taken <+: start) : (noted group start taken).groups count = sole count group taken := by
  obtain ⟨k, rfl⟩ := Nat.exists_eq_add_one_of_ne_zero (Nat.ne_of_gt numbered)
  refine List.map_congr_left fun i _ => ?_
  have first : 2 * (i + 1) - 2 = 2 * i := by omega
  have second : 2 * (i + 1) - 1 = 2 * i + 1 := by omega
  rw [Notes.taken, noted_eq, first, second]
  have length : (List.replicate (2 * k) (none : Option (List Char))).length = 2 * k :=
    List.length_replicate
  obtain less | rfl | more := Nat.lt_trichotomy i k
  · rw [List.getElem?_append_left (by omega), List.getElem?_replicate_of_lt (by omega),
      if_neg (by omega)]
    rfl
  · have rest : start.length - (start.drop taken.length).length = taken.length := by
      have short := within.length_le
      rw [List.length_drop]
      omega
    rw [List.getElem?_append_right (by omega), List.getElem?_append_right (by omega), length,
      Nat.sub_self, Nat.add_sub_cancel_left, if_pos rfl]
    simp only [List.getElem?_cons_zero, List.getElem?_cons_succ, rest,
      ← List.prefix_iff_eq_take.mp within, Option.map_some]
  · rw [List.getElem?_eq_none (by simp; omega), if_neg (by omega)]
    rfl

/-- A phrase, and then a line up to what follows it. -/
theorem tell_line (whole : List Char) (opening : String) (count : Nat) {group : Nat}
    (numbered : 0 < group) {next : Node} {stop : List Char → Bool}
    (told : ∀ notes s, next.read whole noteAll notes s = if stop s then some notes else none)
    (s : List Char) :
    ((Node.phrase opening.toList (.both (.lineIn group) next)).read whole noteAll [] s).map
        (·.groups count)
      = ((after? opening.toList s).bind (upToLast stop)).map (sole count group) := by
  rw [read_phrase]
  cases after? opening.toList s with
  | none => rfl
  | some start =>
    have read : (Node.both (.lineIn group) next).read whole noteAll [] start
        = (upToLast stop start).map (noted group start) := take_line_until (fun s => told _ s) start
    rw [Option.bind_some, Option.bind_some, read, Option.map_map]
    refine Option.map_congr fun taken found => ?_
    obtain ⟨-, ⟨more, cut, -⟩, -⟩ := up_to_of_last found
    exact groups_noted numbered ⟨more, cut.symm⟩

theorem closing_told (whole : List Char) (closing : String) (notes : Notes) (s : List Char) :
    (Node.phrase closing.toList .empty).read whole noteAll notes s
      = if closing.toList.isPrefixOf s then some notes else none := by
  rw [read_phrase, after?]
  split <;> rfl

theorem tell_between (whole : List Char) (opening closing : String) (count : Nat) {group : Nat}
    (numbered : 0 < group) (s : List Char) :
    ((Node.between opening closing group).read whole noteAll [] s).map (·.groups count)
      = (betweenHere opening closing s).map (sole count group) :=
  tell_line whole opening count numbered (closing_told whole closing) s

/-! ### Parts that can be read -/

theorem Tidy.phrase {lo hi : Nat} {next : Node} (tidy : Tidy lo next hi) (w : List Char) :
    Tidy lo (.phrase w next) hi := by
  induction w with
  | nil => exact tidy
  | cons c w ih => exact .both (.one _) ih

theorem Tidy.maybe {lo hi : Nat} {next : Node} (tidy : Tidy lo next hi) (part : List Char) :
    Tidy lo (.maybe part next) hi := .both (.optional (.phrase .empty part)) tidy

theorem Tidy.group {lo index : Nat} {body : Node} (numbered : 0 < index)
    (free : lo ≤ 2 * index - 2) (plain : ∀ {lo}, Tidy lo body lo) :
    Tidy lo (.group index body) (2 * index) := by
  have ends : entryOf index false + 1 ≤ entryOf index true := by
    show 2 * index - 2 + 1 ≤ 2 * index - 1
    omega
  have last : 2 * index = entryOf index true + 1 := by
    show 2 * index = 2 * index - 1 + 1
    omega
  rw [last]
  exact .both (.mark free) (.both plain (.mark ends))

theorem Tidy.option {lo mid hi : Nat} {next others : Node} (one : Tidy lo next mid)
    (rest : Tidy lo others hi) (w : List Char) : Tidy lo (.option w next others) (max mid hi) :=
  .either (one.phrase w) rest

theorem Tidy.between {lo group : Nat} (numbered : 0 < group) (free : lo ≤ 2 * group - 2)
    (opening closing : String) : Tidy lo (.between opening closing group) (2 * group) :=
  .phrase (.both (.group numbered free (.both (.greedy _ _ _ _ _) .empty)) (.phrase .empty _)) _

theorem Tidy.optionBetween {lo group hi : Nat} {others : Node} (numbered : 0 < group)
    (free : lo ≤ 2 * group - 2) (rest : Tidy lo others hi) {opening closing : String} :
    Tidy lo (.optionBetween opening closing group others) (max (2 * group) hi) :=
  .either (.between numbered free opening closing) rest

/-! ### Patterns without groups -/

theorem first_place_is_some {α : Type} (here : List Char → Option α) (s : List Char) :
    (firstPlace here s).isSome = s.tails.any fun s => (here s).isSome := by
  induction s with
  | nil => simp [firstPlace]
  | cons c rest ih =>
    rw [firstPlace, List.tails_cons, List.any_cons, ← ih]
    cases here (c :: rest) <;> rfl

/-- A reader that only tells whether anything is found looks at every place. -/
theorem first_place_plain {here : List Char → Option Groups} {found : List Char → Bool}
    (told : ∀ s, here s = plain (found s)) (s : List Char) :
    firstPlace here s = plain (s.tails.any found) := by
  induction s with
  | nil => simp [firstPlace, told]
  | cons c rest ih =>
    rw [firstPlace, told, ih, List.tails_cons, List.any_cons]
    cases found (c :: rest) <;> rfl

theorem occurs_eq_any (w s : List Char) : Text.occurs w s = s.tails.any w.isPrefixOf := by
  induction s with
  | nil => cases w <;> rfl
  | cons c rest ih => rw [Text.occurs, ih, List.tails_cons, List.any_cons]

theorem any_or {α : Type} (l : List α) (p q : α → Bool) :
    l.any (fun x => p x || q x) = (l.any p || l.any q) := by
  induction l with
  | nil => rfl
  | cons a l ih =>
    simp only [List.any_cons, ih]
    ac_rfl

/-- One of several phrases is mentioned where it stands at some place. -/
theorem any_mentions (phrases : List String) (s : List Char) :
    phrases.any (mentions · s)
      = s.tails.any fun rest => phrases.any fun phrase => phrase.toList.isPrefixOf rest := by
  induction phrases with
  | nil => simp
  | cons phrase phrases ih => simp only [List.any_cons, any_or, ← ih, mentions, occurs_eq_any]

/-- A pattern without groups only tells that it was found. -/
theorem tell_plain (source : String) (least : Nat) (plainFront : Bool) (node : Node)
    (whole s : List Char) :
    (Pattern.mk source 0 least plainFront node).tellHere whole s
      = plain (node.read whole noteAll [] s).isSome := by
  rw [tellHere, readHere]
  cases node.read whole noteAll [] s <;> rfl

theorem after_is_some (w s : List Char) : (after? w s).isSome = w.isPrefixOf s := by
  rw [after?]
  split <;> rename_i begins <;> simp [begins]

theorem after_append (u v s : List Char) : after? (u ++ v) s = (after? u s).bind (after? v) := by
  refine Option.ext fun rest => ?_
  rw [after_eq_some_iff, Option.bind_eq_some_iff]
  simp only [after_eq_some_iff, List.append_assoc]
  exact ⟨fun cut => ⟨_, cut, rfl⟩, fun ⟨_, cut, cut'⟩ => cut' ▸ cut⟩

/-- A phrase alone. -/
theorem phrase_is_some (w : String) (whole s : List Char) :
    ((Node.phrase w.toList .empty).read whole noteAll [] s).isSome = w.toList.isPrefixOf s := by
  rw [read_phrase, ← after_is_some]
  cases after? w.toList s <;> rfl

/-- A phrase with a part in it that may be left out is one phrase or the other. -/
theorem maybe_is_some (front part back : String) (whole s : List Char) :
    ((Node.phrase front.toList (.maybe part.toList (.phrase back.toList .empty))).read whole noteAll
      [] s).isSome
      = ((front ++ back).toList.isPrefixOf s || (front ++ part ++ back).toList.isPrefixOf s) := by
  rw [read_phrase, ← after_is_some, ← after_is_some, String.toList_append, String.toList_append,
    String.toList_append, List.append_assoc, after_append, after_append]
  cases after? front.toList s with
  | none => rfl
  | some s =>
    have turns : (Node.maybe part.toList (.phrase back.toList .empty)).read whole noteAll [] s
        = ((Node.phrase part.toList .empty).read whole
          ((Node.phrase back.toList .empty).read whole noteAll) [] s).or
          ((Node.phrase back.toList .empty).read whole noteAll [] s) := rfl
    rw [Option.bind_some, Option.bind_some, Option.bind_some, turns, Option.isSome_or,
      phrase_is_some, read_phrase, Bool.or_comm, after_is_some, after_append]
    cases after? part.toList s with
    | none => rfl
    | some s =>
      rw [Option.bind_some, Option.bind_some, after_is_some]
      exact congrArg _ (phrase_is_some back whole s)

/-! ### Texts between phrases -/

theorem read_option_between (whole : List Char) (opening closing : String) (group : Nat)
    (others : Node) (s : List Char) :
    (Node.optionBetween opening closing group others).read whole noteAll [] s
      = ((Node.between opening closing group).read whole noteAll [] s).or
        (others.read whole noteAll [] s) := read_option _ _ _

end PlaybookLint.Pattern
