import Mathlib
import PlaybookLint.Pattern
import PlaybookLint.Proofs.Phrase

/-!
What patterns match, told without the matcher's trail. Where nothing but one character is repeated, save
for a part that may be left out, and groups are noted in the order of their numbers, a pattern is read
from what is left of the text alone: each construct hands on what it leaves, and what was noted is what
was left where groups began and ended.
-/

namespace PlaybookLint.Pattern

/-- What was left of the text where groups began and ended, entry by entry as in the marks. -/
abbrev Notes := List (Option (List Char))

/-- What must follow a construct, told what was noted and what is left. -/
abbrev Onward := Notes → List Char → Option Notes

/-- The entry that tells the begin or the end of a group. -/
def entryOf (index : Nat) (isEnd : Bool) : Nat := if isEnd then 2 * index - 1 else 2 * index - 2

/-- Notes what is left, in an entry that none was noted in or behind. -/
def Notes.note (notes : Notes) (entry : Nat) (rest : List Char) : Notes :=
  notes ++ List.replicate (entry - notes.length) none ++ [some rest]

/-- The marks in a text of that size. -/
def Notes.marks (size : Nat) (notes : Notes) : Marks :=
  notes.map fun rest => rest.map fun rest => size - rest.length

/-! ### Reading -/

/-- Does the character that must come next come next? -/
def nextFits : Option Nat → List Char → Bool
  | none, _ => true
  | some n, c :: _ => c.toNat == n
  | some _, [] => false

/-- Does the next character pass the test that the first one must pass? -/
def frontFits : Option CharTest → List Char → Bool
  | none, _ => true
  | some test, c :: _ => test.accepts c
  | some _, [] => false

/-- Is the place in front of what is left of the kind? Only the ends of the text are told apart. -/
def Place.isBefore (whole rest : List Char) : Place → Bool
  | .textStart => rest.length == whole.length
  | .textEnd => rest.isEmpty
  | .textEndOrLastLineFeed => rest.isEmpty || rest == ['\n']
  | _ => false

/-- Reads on only where the character that must come next does. -/
def whereFits (next : Option Nat) (here : List Char → Option Notes) (s : List Char) : Option Notes :=
  if nextFits next s then here s else none

/-- Takes as many characters as possible, at first; then one less, and so on. -/
def takeMost (test : CharTest) (here : List Char → Option Notes) :
    List Char → Nat → Option Nat → Option Notes
  | [], least, _ => if least = 0 then here [] else none
  | c :: rest, least, most =>
    let more := if mayRepeat most && test.accepts c then
      takeMost test here rest (least - 1) (most.map (· - 1)) else none
    more.or (if least = 0 then here (c :: rest) else none)

/-- Takes as few characters as possible, at first; then one more, and so on. -/
def takeLeast (test : CharTest) (here : List Char → Option Notes) : List Char → Nat → Option Notes
  | [], least => if least = 0 then here [] else none
  | c :: rest, least =>
    let more := if test.accepts c then takeLeast test here rest (least - 1) else none
    (if least = 0 then here (c :: rest) else none).or more

/-- Reads a pattern in front of what must follow it. -/
def Node.read (whole : List Char) : Node → Onward → Onward
  | .empty, onward => onward
  | .one test, onward => fun notes s =>
    match s with
    | c :: rest => if test.accepts c then onward notes rest else none
    | [] => none
  | .edge kind, onward => fun notes s => if kind.isBefore whole s then onward notes s else none
  | .mark index isEnd, onward => fun notes s => onward (notes.note (entryOf index isEnd) s) s
  | .both first second, onward => first.read whole (second.read whole onward)
  | .either _ front first rest, onward => fun notes s =>
    (if frontFits front s then first.read whole onward notes s else none).or
      (rest.read whole onward notes s)
  | .span _ .greedy least most test next, onward => fun notes s =>
    takeMost test (whereFits next (onward notes)) s least most
  | .span _ .lazy least _ test _, onward => fun notes s => takeLeast test (onward notes) s least
  | .loop _ .greedy 0 (some 1) body, onward => fun notes s =>
    (body.read whole onward notes s).or (onward notes s)
  | _, _ => fun _ _ => none

/-- A pattern that can be read this way, when entries from the first number on are free; the second
number tells which are free behind it. -/
inductive Tidy : Nat → Node → Nat → Prop
  | empty {lo : Nat} : Tidy lo .empty lo
  | nothing {lo : Nat} : Tidy lo .nothing lo
  | one {lo : Nat} (test : CharTest) : Tidy lo (.one test) lo
  | textStart {lo : Nat} : Tidy lo (.edge .textStart) lo
  | textEnd {lo : Nat} : Tidy lo (.edge .textEnd) lo
  | lastLineFeed {lo : Nat} : Tidy lo (.edge .textEndOrLastLineFeed) lo
  | mark {lo : Nat} {index : Nat} {isEnd : Bool} (free : lo ≤ entryOf index isEnd) :
      Tidy lo (.mark index isEnd) (entryOf index isEnd + 1)
  | both {lo mid hi : Nat} {first second : Node} (front : Tidy lo first mid)
      (back : Tidy mid second hi) : Tidy lo (.both first second) hi
  | either {lo mid hi : Nat} {looped : Bool} {front : Option CharTest} {first rest : Node}
      (one : Tidy lo first mid) (others : Tidy lo rest hi) :
      Tidy lo (.either looped front first rest) (max mid hi)
  | greedy {lo : Nat} (looped : Bool) (least : Nat) (most : Option Nat) (test : CharTest)
      (next : Option Nat) : Tidy lo (.span looped .greedy least most test next) lo
  | lazy {lo : Nat} (looped : Bool) (least : Nat) (test : CharTest) (next : Option Nat) :
      Tidy lo (.span looped .lazy least none test next) lo
  | optional {lo : Nat} {looped : Bool} {body : Node} (plain : Tidy lo body lo) :
      Tidy lo (.loop looped .greedy 0 (some 1) body) lo

/-! ### The matcher -/

/-- An attempt comes to what was read: it succeeds with what was noted, or fails and leaves marks behind
that are kept as told. -/
inductive Meets (size : Nat) (keeps : Marks → Prop) : Outcome → Option Notes → Prop
  | found {trail : Trail} {notes : Notes} (same : trail.marks = notes.marks size) :
      Meets size keeps (true, trail) (some notes)
  | missed {trail : Trail} (kept : keeps trail.marks) : Meets size keeps (false, trail) none

/-- What follows in the matcher comes to what follows when reading, where entries up to `bound` may
be noted. A failure leaves the marks that it began with, whatever stands behind them. -/
def Answers (text : Subject) (bound : Nat) (follow : Follow) (onward : Onward) : Prop :=
  ∀ trail notes rest, notes.length ≤ bound → trail.marks = notes.marks text.size →
    rest <:+ text.toList →
      Meets text.size (trail.marks <+: ·) (follow trail (text.size - rest.length)) (onward notes rest)

section Places

variable {text : Subject} {rest : List Char}

theorem size_of_suffix (behind : rest <:+ text.toList) : rest.length ≤ text.size := by
  have short := behind.length_le
  rwa [Array.length_toList] at short

theorem at_rest (behind : rest <:+ text.toList) : text[text.size - rest.length]? = rest.head? := by
  obtain ⟨front, whole⟩ := behind
  have size : text.size = front.length + rest.length := by
    rw [← Array.length_toList, ← whole, List.length_append]
  rw [size, Nat.add_sub_cancel, ← Array.getElem?_toList, ← whole,
    List.getElem?_append_right (Nat.le_refl _), Nat.sub_self, List.head?_eq_getElem?]

theorem holds_at_rest (test : CharTest) (behind : rest <:+ text.toList) :
    test.holdsAt text (text.size - rest.length) = frontFits (some test) rest := by
  rw [CharTest.holdsAt, at_rest behind]
  cases rest <;> rfl

/-- The place behind one more character. -/
theorem step_place {c : Char} (behind : c :: rest <:+ text.toList) :
    text.size - (c :: rest).length + 1 = text.size - rest.length := by
  have short := size_of_suffix behind
  simp only [List.length_cons] at short ⊢
  omega

theorem rest_behind {c : Char} (behind : c :: rest <:+ text.toList) : rest <:+ text.toList :=
  (List.suffix_cons c rest).trans behind

/-- The ends of the text are told apart by what is left. -/
theorem at_text_start (behind : rest <:+ text.toList) :
    Place.isAt text (text.size - rest.length) .textStart
      = Place.isBefore text.toList rest .textStart := by
  have short := size_of_suffix behind
  simp only [Place.isAt, Place.isBefore, Array.length_toList]
  rw [Bool.eq_iff_iff, beq_iff_eq, beq_iff_eq]
  omega

theorem at_text_end (behind : rest <:+ text.toList) :
    Place.isAt text (text.size - rest.length) .textEnd = Place.isBefore text.toList rest .textEnd := by
  have short := size_of_suffix behind
  simp only [Place.isAt, Place.isBefore]
  rw [Bool.eq_iff_iff, beq_iff_eq, List.isEmpty_iff_length_eq_zero]
  omega

theorem at_last_line_feed (behind : rest <:+ text.toList) :
    Place.isAt text (text.size - rest.length) .textEndOrLastLineFeed
      = Place.isBefore text.toList rest .textEndOrLastLineFeed := by
  have atEnd := at_text_end behind
  simp only [Place.isAt, Place.isBefore] at atEnd ⊢
  rw [atEnd, at_rest behind]
  congr 1
  have short := size_of_suffix behind
  match rest with
  | [] => simp
  | [c] =>
    have last : text.size - 1 + 1 = text.size := Nat.sub_add_cancel short
    simp [last]
  | c :: d :: rest =>
    have more : text.size - (rest.length + 1 + 1) + 1 ≠ text.size := by
      simp only [List.length_cons] at short
      omega
    simp [more]

end Places

section Outcomes

variable {size : Nat} {keeps keeps' : Marks → Prop} {outcome : Outcome} {read read' : Option Notes}

/-- A failure that keeps more keeps less. -/
theorem Meets.weaken (meets : Meets size keeps outcome read)
    (less : ∀ marks, keeps marks → keeps' marks) : Meets size keeps' outcome read := by
  cases meets with
  | found same => exact .found same
  | missed kept => exact .missed (less _ kept)

/-- Where an attempt fails, nothing is read. -/
theorem Meets.unread {trail : Trail} (meets : Meets size keeps (false, trail) read) : read = none := by
  cases meets
  rfl

/-- Where an attempt fails, the next one begins with what is kept; together they come to what is read
by the one or else by the other. -/
theorem Meets.or {later : Trail → Outcome} (meets : Meets size keeps outcome read)
    (meets' : ∀ trail, keeps trail.marks → Meets size keeps' (later trail) read') :
    Meets size keeps'
      (match outcome with
      | (true, trail) => (true, trail)
      | (false, trail) => later trail) (read.or read') := by
  cases meets with
  | found same => exact .found same
  | missed kept => exact meets' _ kept

/-- A repetition fails at once where less is left than it takes at least. -/
theorem Meets.or_short {left least count : Nat} {trail after : Trail} {found : Outcome}
    (few : count ≤ left)
    (meets : Meets size (· = trail.marks) (if count < least then (false, after) else found) read) :
    Meets size (trail.marks <+: ·)
      (if left < least then (false, trail)
      else if count < least then (false, after) else found) read := by
  split
  next short =>
    rw [if_pos (few.trans_lt short)] at meets
    rw [meets.unread]
    exact .missed (List.prefix_refl _)
  next => exact meets.weaken fun _ eq => eq ▸ List.prefix_refl _

end Outcomes

theorem restored_eq {looped : Bool} {earlier marks : Marks} (kept : earlier <+: marks) :
    Marks.restored looped earlier marks = earlier := by
  cases looped with
  | true => rfl
  | false => exact (List.prefix_iff_eq_take.mp kept).symm

theorem Answers.mono {text : Subject} {less bound : Nat} {follow : Follow} {onward : Onward}
    (answers : Answers text bound follow onward) (fewer : less ≤ bound) :
    Answers text less follow onward := fun trail notes rest short =>
  answers trail notes rest (short.trans fewer)

/-! ### Repetitions of one character -/

/-- With these marks, what follows in the matcher comes to what is read here. -/
def AnswersWith (text : Subject) (marks : Marks) (follow : Follow)
    (here : List Char → Option Notes) : Prop :=
  ∀ trail rest, trail.marks = marks → rest <:+ text.toList →
    Meets text.size (marks <+: ·) (follow trail (text.size - rest.length)) (here rest)

theorem Answers.with {text : Subject} {bound : Nat} {follow : Follow} {onward : Onward} {notes : Notes}
    (answers : Answers text bound follow onward) (short : notes.length ≤ bound) :
    AnswersWith text (notes.marks text.size) follow (onward notes) := fun trail rest same behind =>
  same ▸ answers trail notes rest short same behind

/-- Giving back goes on from the first character that may be kept to the first that may not. -/
theorem give_back_front (text : Subject) (looped : Bool) (next : Option Nat) (earlier : Marks)
    (follow : Follow) (start : Nat) (trail : Trail) (extra : Nat) :
    giveBack text looped next earlier follow start trail (extra + 1)
      = match giveBack text looped next earlier follow (start + 1) trail extra with
        | (true, trail) => (true, trail)
        | (false, trail) => giveBack.attempt text looped next earlier follow start trail 0 := by
  induction extra generalizing trail with
  | zero => rfl
  | succ extra ih =>
    have same : ∀ trail, giveBack.attempt text looped next earlier follow start trail (extra + 1 + 1)
        = giveBack.attempt text looped next earlier follow (start + 1) trail (extra + 1) := by
      intro trail
      unfold giveBack.attempt
      rw [Nat.add_right_comm start 1]
      rfl
    rw [giveBack, same, giveBack]
    generalize giveBack.attempt text looped next earlier follow (start + 1) trail (extra + 1) = tried
    obtain ⟨found, trail⟩ := tried
    cases found with
    | true => rfl
    | false => exact ih trail

theorem run_le (test : CharTest) (text : Subject) (place most : Nat) :
    test.run text place most ≤ text.size - place := by
  induction most generalizing place with
  | zero => exact Nat.zero_le _
  | succ most ih =>
    rw [CharTest.run]
    split
    next holds =>
      have inside : place < text.size := by
        by_contra outside
        simp [CharTest.holdsAt, Array.getElem?_eq_none (Nat.le_of_not_lt outside)] at holds
      have later := ih (place + 1)
      omega
    next => exact Nat.zero_le _

section Span

variable {text : Subject} {marks : Marks} {follow : Follow} {here : List Char → Option Notes}

theorem attempt_meets (looped : Bool) (next : Option Nat) (answers : AnswersWith text marks follow here)
    {trail : Trail} (same : trail.marks = marks) {rest : List Char} (behind : rest <:+ text.toList) :
    Meets text.size (· = marks)
      (giveBack.attempt text looped next marks follow (text.size - rest.length) trail 0)
      (whereFits next here rest) := by
  have meets := answers (trail.goTo (text.size - rest.length)) rest same behind
  have tried : Meets text.size (· = marks)
      (match follow (trail.goTo (text.size - rest.length)) (text.size - rest.length) with
      | (true, trail) => (true, trail)
      | (false, trail) => (false, trail.restore looped marks)) (here rest) := by
    generalize follow _ _ = outcome, here rest = read at meets ⊢
    cases meets with
    | found same => exact .found same
    | missed kept => exact .missed (restored_eq kept)
  cases next with
  | none => exact tried
  | some n =>
    have fits : ((text[text.size - rest.length]?).map Char.toNat == some n)
        = nextFits (some n) rest := by
      rw [at_rest behind]
      cases rest <;> rfl
    simp only [giveBack.attempt, Nat.add_zero, whereFits, fits]
    cases nextFits (some n) rest with
    | true => exact tried
    | false => exact .missed same

/-- Taking as much as possible, character by character. -/
theorem greedy_meets (looped : Bool) (next : Option Nat) (test : CharTest)
    (answers : AnswersWith text marks follow here) {trail : Trail} (same : trail.marks = marks)
    {s : List Char} (behind : s <:+ text.toList) (least : Nat) (greatest : Option Nat) {count : Nat}
    (counted : count = test.run text (text.size - s.length) (min s.length (greatest.getD s.length))) :
    Meets text.size (· = marks)
      (if count < least then (false, trail)
      else giveBack text looped next marks follow (text.size - s.length + least) trail (count - least))
      (takeMost test (whereFits next here) s least greatest) := by
  have stop : ∀ {s : List Char}, s <:+ text.toList → ∀ least, Meets text.size (· = marks)
      (if 0 < least then (false, trail)
      else giveBack text looped next marks follow (text.size - s.length + least) trail (0 - least))
      (if least = 0 then whereFits next here s else none) := by
    intro s behind least
    cases least with
    | zero => exact attempt_meets looped next answers same behind
    | succ least => exact .missed same
  induction s generalizing least greatest count with
  | nil =>
    obtain rfl : count = 0 := by simpa [CharTest.run] using counted
    exact stop behind least
  | cons c rest ih =>
    have holds := holds_at_rest test behind
    rw [takeMost]
    by_cases more : mayRepeat greatest && test.accepts c
    case neg =>
      obtain rfl : count = 0 := by
        rw [counted]
        cases most : min (c :: rest).length (greatest.getD (c :: rest).length) with
        | zero => rfl
        | succ most' =>
          have refused : test.accepts c = false := by
            cases greatest with
            | none => simpa [mayRepeat] using more
            | some n =>
              cases n with
              | zero => simp at most
              | succ n => simpa [mayRepeat] using more
          rw [CharTest.run, holds, frontFits, refused]
          rfl
      simpa [more] using stop behind least
    case pos =>
      have accepted : test.accepts c = true := (Bool.and_eq_true_iff.mp more).2
      have bound : min (c :: rest).length (greatest.getD (c :: rest).length)
          = min rest.length ((greatest.map (· - 1)).getD rest.length) + 1 := by
        cases greatest with
        | none => simp
        | some n =>
          cases n with
          | zero => simp [mayRepeat] at more
          | succ n => simp only [List.length_cons, Option.getD_some, Option.map_some]; omega
      rw [bound, CharTest.run, holds, frontFits, accepted, if_pos rfl, step_place behind] at counted
      obtain ⟨fewer, rfl⟩ : ∃ fewer, count = fewer + 1 := ⟨_, counted⟩
      have later := ih (rest_behind behind) (least - 1) (greatest.map (· - 1))
        (Nat.succ.inj counted)
      simp only [more, if_true]
      cases least with
      | succ least =>
        rw [if_neg (Nat.succ_ne_zero least), Option.or_none]
        rw [Nat.add_sub_cancel, ← step_place behind, Nat.add_right_comm, Nat.add_assoc] at later
        simpa only [Nat.add_lt_add_iff_right, Nat.add_sub_add_right, Nat.add_sub_cancel] using later
      | zero =>
        rw [Nat.zero_sub, if_neg (Nat.not_lt_zero _), Nat.add_zero, Nat.sub_zero] at later
        rw [if_neg (Nat.not_lt_zero _), Nat.add_zero, Nat.sub_zero, give_back_front,
          step_place behind]
        exact later.or fun trail same => attempt_meets looped next answers same behind

/-- Taking one more character each time that what follows fails. -/
theorem take_more_meets (looped : Bool) (test : CharTest)
    (answers : AnswersWith text marks follow here) {s : List Char} (behind : s <:+ text.toList)
    {trail : Trail} (same : trail.marks = marks) {more : Nat} (enough : s.length ≤ more) :
    Meets text.size (· = marks)
      (takeMore test text looped marks follow more trail (text.size - s.length))
      (takeLeast test here s 0) := by
  induction s generalizing trail more with
  | nil =>
    have nothing : test.holdsAt text (text.size - ([] : List Char).length) = false :=
      holds_at_rest test behind
    unfold takeMore
    rw [takeLeast, if_pos rfl, ← Option.or_none (o := here [])]
    refine Meets.or (answers (trail.goTo _) _ same behind) fun trail kept => ?_
    simp only [nothing]
    exact .missed (restored_eq kept)
  | cons c rest ih =>
    have holds : test.holdsAt text (text.size - (c :: rest).length) = test.accepts c :=
      holds_at_rest test behind
    unfold takeMore
    rw [takeLeast, if_pos rfl]
    refine Meets.or (answers (trail.goTo _) _ same behind) fun trail kept => ?_
    obtain ⟨fewer, rfl⟩ : ∃ fewer, more = fewer + 1 :=
      ⟨more - 1, by rw [List.length_cons] at enough; omega⟩
    simp only [holds, step_place behind]
    split
    next =>
      refine ih (rest_behind behind) ?_ (Nat.le_of_succ_le_succ enough)
      split <;> exact restored_eq kept
    next => exact .missed (restored_eq kept)

/-- Taking as little as possible, character by character. -/
theorem lazy_meets (looped : Bool) (test : CharTest) (answers : AnswersWith text marks follow here)
    {s : List Char} (behind : s <:+ text.toList) {trail : Trail} (same : trail.marks = marks)
    (least : Nat) {more : Nat} (enough : s.length ≤ more) :
    Meets text.size (· = marks)
      (if test.run text (text.size - s.length) least < least then (false, trail)
      else takeMore test text looped marks follow more trail (text.size - s.length + least))
      (takeLeast test here s least) := by
  induction least generalizing s with
  | zero => exact take_more_meets looped test answers behind same enough
  | succ least ih =>
    rw [CharTest.run, holds_at_rest test behind]
    cases s with
    | nil => exact .missed same
    | cons c rest =>
      rw [takeLeast, if_neg (Nat.succ_ne_zero least), Option.none_or, frontFits]
      cases test.accepts c with
      | false => exact .missed same
      | true =>
        have later := ih (rest_behind behind) ((Nat.le_succ _).trans enough)
        rw [← step_place behind, Nat.add_right_comm, Nat.add_assoc] at later
        simpa only [if_true, Nat.add_lt_add_iff_right, Nat.add_sub_cancel] using later

end Span

/-! ### Patterns -/

section Runs

variable {text : Subject} {bound : Nat} {follow : Follow} {onward : Onward}

theorem run_one (test : CharTest) (trail : Trail) (place : Nat) :
    (Node.one test).run text trail place follow
      = if test.holdsAt text place then follow trail (place + 1) else (false, trail) := rfl

theorem run_edge (kind : Place) (trail : Trail) (place : Nat) :
    (Node.edge kind).run text trail place follow
      = if kind.isAt text place then follow trail place else (false, trail) := rfl

theorem run_span (looped : Bool) (greed : Greed) (least : Nat) (greatest : Option Nat)
    (test : CharTest) (next : Option Nat) (trail : Trail) (place : Nat) :
    (Node.span looped greed least greatest test next).run text trail place follow
      = runSpan text looped greed least greatest test next trail place follow := rfl

theorem run_loop_greedy (looped : Bool) (least : Nat) (greatest : Option Nat) (body : Node)
    (trail : Trail) (place : Nat) :
    (Node.loop looped .greedy least greatest body).run text trail place follow
      = repeatGreedy (body.run text) follow (turnBound text least) least greatest none
        (trail.goTo place) place := rfl

theorem read_span_greedy (whole : List Char) (looped : Bool) (least : Nat) (most : Option Nat)
    (test : CharTest) (next : Option Nat) (notes : Notes) (s : List Char) :
    (Node.span looped .greedy least most test next).read whole onward notes s
      = takeMost test (whereFits next (onward notes)) s least most := rfl

theorem read_span_lazy (whole : List Char) (looped : Bool) (least : Nat) (most : Option Nat)
    (test : CharTest) (next : Option Nat) (notes : Notes) (s : List Char) :
    (Node.span looped .lazy least most test next).read whole onward notes s
      = takeLeast test (onward notes) s least := rfl

theorem read_maybe (whole : List Char) (looped : Bool) (body : Node) (notes : Notes)
    (s : List Char) : (Node.loop looped .greedy 0 (some 1) body).read whole onward notes s
      = (body.read whole onward notes s).or (onward notes s) := rfl

theorem one_answers (test : CharTest) (answers : Answers text bound follow onward) :
    Answers text bound (fun trail place => (Node.one test).run text trail place follow)
      ((Node.one test).read text.toList onward) := by
  intro trail notes s short same behind
  beta_reduce
  rw [run_one, holds_at_rest test behind]
  cases s with
  | nil => exact .missed (List.prefix_refl _)
  | cons c rest =>
    rw [step_place behind]
    change Meets _ _ (if test.accepts c then _ else _) (if test.accepts c then _ else none)
    split
    next => exact answers trail notes rest short same (rest_behind behind)
    next => exact .missed (List.prefix_refl _)

theorem edge_answers {kind : Place}
    (told : ∀ rest, rest <:+ text.toList →
      kind.isAt text (text.size - rest.length) = kind.isBefore text.toList rest)
    (answers : Answers text bound follow onward) :
    Answers text bound (fun trail place => (Node.edge kind).run text trail place follow)
      ((Node.edge kind).read text.toList onward) := by
  intro trail notes s short same behind
  beta_reduce
  rw [run_edge, told s behind]
  change Meets _ _ _ (if kind.isBefore text.toList s then onward notes s else none)
  split
  next => exact answers trail notes s short same behind
  next => exact .missed (List.prefix_refl _)

/-- Noting a place behind all that was noted. -/
theorem marks_note {notes : Notes} {size entry : Nat} (rest : List Char)
    (free : notes.length ≤ entry) :
    Marks.note (notes.marks size) entry (size - rest.length) = (notes.note entry rest).marks size := by
  have behind : ¬ entry < (notes.marks size).length := by
    rw [Notes.marks, List.length_map]
    exact Nat.not_lt_of_le free
  rw [Marks.note, if_neg behind]
  simp [Notes.note, Notes.marks]

theorem length_note {notes : Notes} {entry : Nat} (rest : List Char) (free : notes.length ≤ entry) :
    (notes.note entry rest).length = entry + 1 := by
  simp only [Notes.note, List.length_append, List.length_replicate, List.length_singleton]
  omega

theorem mark_answers {lo index : Nat} {isEnd : Bool} (free : lo ≤ entryOf index isEnd)
    (answers : Answers text (entryOf index isEnd + 1) follow onward) :
    Answers text lo (fun trail place => (Node.mark index isEnd).run text trail place follow)
      ((Node.mark index isEnd).read text.toList onward) := by
  intro trail notes s short same behind
  have room := short.trans free
  have noted : Marks.note trail.marks (entryOf index isEnd) (text.size - s.length)
      = (notes.note (entryOf index isEnd) s).marks text.size := by
    rw [same]
    exact marks_note s room
  have kept : trail.marks <+: (notes.note (entryOf index isEnd) s).marks text.size := by
    rw [same, Notes.note, Notes.marks, Notes.marks, List.append_assoc, List.map_append]
    exact List.prefix_append _ _
  have meets := answers ⟨trail.place, _⟩ _ s (length_note s room).le noted behind
  exact meets.weaken fun marks more => kept.trans (noted ▸ more)

theorem either_answers {looped : Bool} {front : Option CharTest} {first rest : Node}
    (one : Answers text bound (fun trail place => first.run text trail place follow)
      (first.read text.toList onward))
    (others : Answers text bound (fun trail place => rest.run text trail place follow)
      (rest.read text.toList onward)) :
    Answers text bound
      (fun trail place => (Node.either looped front first rest).run text trail place follow)
      ((Node.either looped front first rest).read text.toList onward) := by
  intro trail notes s short same behind
  have others' := others trail notes s short same behind
  have tried : Meets text.size (trail.marks <+: ·)
      (match first.run text (trail.goTo (text.size - s.length)) (text.size - s.length) follow with
      | (true, trail) => (true, trail)
      | (false, after) =>
        rest.run text (after.restore looped trail.marks) (text.size - s.length) follow)
      ((first.read text.toList onward notes s).or (rest.read text.toList onward notes s)) := by
    refine Meets.or (one (trail.goTo _) notes s short same behind) fun after kept => ?_
    have restored : (after.restore looped trail.marks).marks = trail.marks := restored_eq kept
    have meets := others (after.restore looped trail.marks) notes s short (restored.trans same) behind
    rwa [restored] at meets
  cases front with
  | none => cases s <;> exact tried
  | some test =>
    simp only [Node.run, Node.read, holds_at_rest test behind]
    cases frontFits (some test) s with
    | true => exact tried
    | false => exact others'

theorem greedy_answers (looped : Bool) (least : Nat) (greatest : Option Nat) (test : CharTest)
    (next : Option Nat) (answers : Answers text bound follow onward) :
    Answers text bound
      (fun trail place =>
        (Node.span looped .greedy least greatest test next).run text trail place follow)
      ((Node.span looped .greedy least greatest test next).read text.toList onward) := by
  intro trail notes s short same behind
  have answers' : AnswersWith text trail.marks follow (onward notes) := same ▸ answers.with short
  have left : text.size - (text.size - s.length) = s.length :=
    Nat.sub_sub_self (size_of_suffix behind)
  obtain ⟨count, counted⟩ : ∃ count, count
      = test.run text (text.size - s.length) (min s.length (greatest.getD s.length)) := ⟨_, rfl⟩
  have few : count ≤ s.length := counted ▸ (run_le _ _ _ _).trans_eq left
  have unmarked : (afterCount test trail (text.size - s.length) count).marks = trail.marks := rfl
  have meets := greedy_meets looped next test answers' unmarked behind least greatest counted
  beta_reduce
  rw [run_span, read_span_greedy]
  simp only [runSpan, left, ← counted, unmarked]
  exact meets.or_short few

theorem lazy_answers (looped : Bool) (least : Nat) (test : CharTest) (next : Option Nat)
    (answers : Answers text bound follow onward) :
    Answers text bound
      (fun trail place => (Node.span looped .lazy least none test next).run text trail place follow)
      ((Node.span looped .lazy least none test next).read text.toList onward) := by
  intro trail notes s short same behind
  have answers' : AnswersWith text trail.marks follow (onward notes) := same ▸ answers.with short
  have left : text.size - (text.size - s.length) = s.length :=
    Nat.sub_sub_self (size_of_suffix behind)
  have few : test.run text (text.size - s.length) least ≤ s.length :=
    (run_le _ _ _ _).trans_eq left
  obtain ⟨after, began⟩ : ∃ after, after = if least == 0 then trail.goTo (text.size - s.length)
      else afterCount test trail (text.size - s.length)
        (test.run text (text.size - s.length) least) := ⟨_, rfl⟩
  have unmarked : after.marks = trail.marks := by
    rw [began]
    split <;> rfl
  have meets := lazy_meets looped test answers' behind unmarked least (size_of_suffix behind)
  beta_reduce
  rw [run_span, read_span_lazy]
  simp only [runSpan, left, ← began, Option.getD_none, Nat.add_sub_cancel, unmarked]
  exact meets.or_short few

/-- A part that may be left out is tried once, then passed over. -/
theorem optional_answers {looped : Bool} {body : Node}
    (plain : ∀ {follow : Follow} {onward : Onward}, Answers text bound follow onward →
      Answers text bound (fun trail place => body.run text trail place follow)
        (body.read text.toList onward))
    (answers : Answers text bound follow onward) :
    Answers text bound
      (fun trail place => (Node.loop looped .greedy 0 (some 1) body).run text trail place follow)
      ((Node.loop looped .greedy 0 (some 1) body).read text.toList onward) := by
  intro trail notes s short same behind
  obtain ⟨fuel, turns⟩ : ∃ fuel, turnBound text 0 = fuel + 1 + 1 := by
    have enough : 2 * 2 ≤ (text.size + 2) * (text.size + 2) :=
      Nat.mul_le_mul (Nat.le_add_left _ _) (Nat.le_add_left _ _)
    exact ⟨turnBound text 0 - 2, by unfold turnBound; omega⟩
  have passing : ∀ last, Answers text bound
      (repeatGreedy (body.run text) follow (fuel + 1) 0 (some 0) last) onward := by
    intro last trail notes s short same behind
    have meets := answers (trail.goTo (text.size - s.length)) notes s short same behind
    simp only [repeatGreedy, mayRepeat, Bool.false_and, Bool.false_eq_true, if_false]
    generalize follow _ _ = outcome, onward notes s = read at meets ⊢
    cases meets with
    | found same => exact .found same
    | missed kept => exact .missed kept
  have passed := passing none trail notes s short same behind
  simp only [repeatGreedy, mayRepeat, Bool.false_and, Bool.false_eq_true, if_false] at passed
  have turn : Meets text.size (trail.marks <+: ·)
      (body.run text (trail.goTo (text.size - s.length)) (text.size - s.length) fun trail further =>
        repeatGreedy (body.run text) follow (fuel + 1) 0 (some 0) (some (text.size - s.length)) trail
          further)
      (body.read text.toList onward notes s) :=
    plain (passing _) (trail.goTo (text.size - s.length)) notes s short same behind
  have again : (trail.goTo (text.size - s.length)).goTo (text.size - s.length)
      = trail.goTo (text.size - s.length) := rfl
  beta_reduce
  rw [run_loop_greedy, read_maybe, turns, repeatGreedy]
  simp only [mayRepeat, Bool.true_and, Option.map_some, Nat.sub_self, again, bne_iff_ne, ne_eq,
    reduceCtorEq, not_false_eq_true, if_true]
  generalize body.run text _ _ _ = outcome, body.read text.toList onward notes s = read at turn ⊢
  cases turn with
  | found same => exact .found same
  | missed kept => exact passed

end Runs

theorem run_answers {text : Subject} {node : Node} {lo hi : Nat} (tidy : Tidy lo node hi)
    {follow : Follow} {onward : Onward} (answers : Answers text hi follow onward) :
    Answers text lo (fun trail place => node.run text trail place follow)
      (node.read text.toList onward) := by
  induction tidy generalizing follow onward with
  | empty => exact answers
  | nothing => intro trail notes rest _ _ _; exact .missed (List.prefix_refl _)
  | one test => exact one_answers test answers
  | textStart => exact edge_answers (fun _ => at_text_start) answers
  | textEnd => exact edge_answers (fun _ => at_text_end) answers
  | lastLineFeed => exact edge_answers (fun _ => at_last_line_feed) answers
  | mark free => exact mark_answers free answers
  | both _ _ front_ih back_ih => exact front_ih (back_ih answers)
  | either _ _ one_ih others_ih =>
    exact either_answers (one_ih (answers.mono (Nat.le_max_left _ _)))
      (others_ih (answers.mono (Nat.le_max_right _ _)))
  | greedy looped least most test next => exact greedy_answers looped least most test next answers
  | lazy looped least test next => exact lazy_answers looped least test next answers
  | optional plain ih => exact optional_answers ih answers

/-! ### What reading leaves -/

/-- The fewest characters that a pattern can take, if it can match at all. -/
def Node.fewest : Node → Option Nat
  | .nothing => none
  | .one _ => some 1
  | .both first second => first.fewest.bind fun m => second.fewest.map (m + ·)
  | .either _ _ first rest =>
    match first.fewest, rest.fewest with
    | some m, some n => some (min m n)
    | some m, none => some m
    | none, other => other
  | .span _ _ least _ _ _ => some least
  | _ => some 0

/-- What was noted later is an end of what was noted earlier, and what is left is an end of it all. -/
structure Falls (whole : List Char) (notes : Notes) (s : List Char) : Prop where
  order : notes.Pairwise fun earlier later => ∀ r ∈ earlier, ∀ r' ∈ later, r' <:+ r
  inside : ∀ r, some r ∈ notes → r <:+ whole
  left : ∀ r, some r ∈ notes → s <:+ r
  within : s <:+ whole

section Falling

variable {whole : List Char} {notes : Notes} {s s' : List Char}

theorem falls_at_first (within : s <:+ whole) : Falls whole [] s :=
  ⟨.nil, fun _ absent => absurd absent List.not_mem_nil, fun _ absent => absurd absent List.not_mem_nil,
    within⟩

theorem Falls.go_on (falls : Falls whole notes s) (later : s' <:+ s) : Falls whole notes s' :=
  ⟨falls.order, falls.inside, fun r among => later.trans (falls.left r among),
    later.trans falls.within⟩

theorem mem_note_iff {entry : Nat} {r : List Char} :
    some r ∈ notes.note entry s ↔ some r ∈ notes ∨ r = s := by
  simp [Notes.note, List.mem_replicate]

theorem Falls.note (falls : Falls whole notes s) (entry : Nat) :
    Falls whole (notes.note entry s) s := by
  refine ⟨?_, ?_, ?_, falls.within⟩
  · have open_ : (List.replicate (entry - notes.length) (none : Option (List Char))
        ++ [some s]).Pairwise fun earlier later => ∀ r ∈ earlier, ∀ r' ∈ later, r' <:+ r := by
      simp [List.pairwise_append, List.pairwise_replicate, List.mem_replicate]
    rw [Notes.note, List.append_assoc]
    refine List.pairwise_append.mpr ⟨falls.order, open_, ?_⟩
    intro earlier among later behind r told r' told'
    simp only [List.mem_append, List.mem_replicate, List.mem_singleton] at behind
    obtain ⟨_, rfl⟩ | rfl := behind
    · exact absurd told' (by simp)
    · obtain rfl : r' = s := by simpa using told'.symm
      exact falls.left r (told ▸ among)
  · intro r among
    obtain among | rfl := mem_note_iff.mp among
    · exact falls.inside r among
    · exact falls.within
  · intro r among
    obtain among | rfl := mem_note_iff.mp among
    · exact falls.left r among
    · exact List.suffix_refl _

theorem take_most_leaves {test : CharTest} {here : List Char → Option Notes} {least : Nat}
    {greatest : Option Nat} {read : Notes} (took : takeMost test here s least greatest = some read) :
    ∃ s', here s' = some read ∧ s' <:+ s ∧ least + s'.length ≤ s.length := by
  induction s generalizing least greatest with
  | nil =>
    rw [takeMost] at took
    split at took
    next none => exact ⟨[], took, List.suffix_refl _, by simp [none]⟩
    next => cases took
  | cons c rest ih =>
    rw [takeMost] at took
    obtain more | ⟨-, stop⟩ := Option.or_eq_some_iff.mp took
    · split at more
      next =>
        obtain ⟨s', found, behind, fits⟩ := ih more
        refine ⟨s', found, behind.trans (List.suffix_cons c rest), ?_⟩
        rw [List.length_cons]
        omega
      next => cases more
    · split at stop
      next none => exact ⟨c :: rest, stop, List.suffix_refl _, by simp [none]⟩
      next => cases stop

theorem take_least_leaves {test : CharTest} {here : List Char → Option Notes} {least : Nat}
    {read : Notes} (took : takeLeast test here s least = some read) :
    ∃ s', here s' = some read ∧ s' <:+ s ∧ least + s'.length ≤ s.length := by
  induction s generalizing least with
  | nil =>
    rw [takeLeast] at took
    split at took
    next none => exact ⟨[], took, List.suffix_refl _, by simp [none]⟩
    next => cases took
  | cons c rest ih =>
    rw [takeLeast] at took
    obtain stop | ⟨-, more⟩ := Option.or_eq_some_iff.mp took
    · split at stop
      next none => exact ⟨c :: rest, stop, List.suffix_refl _, by simp [none]⟩
      next => cases stop
    · split at more
      next =>
        obtain ⟨s', found, behind, fits⟩ := ih more
        refine ⟨s', found, behind.trans (List.suffix_cons c rest), ?_⟩
        rw [List.length_cons]
        omega
      next => cases more

theorem edge_leaves {kind : Place} {onward : Onward} {read : Notes}
    (found : (Node.edge kind).read whole onward notes s = some read) : onward notes s = some read := by
  simp only [Node.read] at found
  split at found
  next => exact found
  next => cases found

theorem fewest_either_first {looped : Bool} {front : Option CharTest} {first rest : Node} {n : Nat}
    (few : first.fewest = some n) :
    ∃ m, (Node.either looped front first rest).fewest = some m ∧ m ≤ n := by
  rw [Node.fewest, few]
  cases rest.fewest with
  | none => exact ⟨n, rfl, Nat.le_refl n⟩
  | some m => exact ⟨min n m, rfl, Nat.min_le_left n m⟩

theorem fewest_either_rest {looped : Bool} {front : Option CharTest} {first rest : Node} {n : Nat}
    (few : rest.fewest = some n) :
    ∃ m, (Node.either looped front first rest).fewest = some m ∧ m ≤ n := by
  rw [Node.fewest, few]
  cases first.fewest with
  | none => exact ⟨n, rfl, Nat.le_refl n⟩
  | some m => exact ⟨min m n, rfl, Nat.min_le_right m n⟩

/-- What is read comes from what follows, told more and with less left: by as many characters, at
least, as the pattern takes. -/
theorem read_leaves {node : Node} {lo hi : Nat} (tidy : Tidy lo node hi) {onward : Onward}
    {read : Notes} (found : node.read whole onward notes s = some read) :
    ∃ notes' s', onward notes' s' = some read ∧ s' <:+ s
      ∧ (∃ n, node.fewest = some n ∧ n + s'.length ≤ s.length)
      ∧ (Falls whole notes s → Falls whole notes' s') := by
  induction tidy generalizing onward notes s with
  | empty => exact ⟨notes, s, found, List.suffix_refl _, ⟨0, rfl, by simp⟩, id⟩
  | nothing => cases found
  | one test =>
    rw [Node.read] at found
    cases s with
    | nil => cases found
    | cons c rest =>
      simp only at found
      split at found
      next =>
        refine ⟨notes, rest, found, List.suffix_cons c rest, ⟨1, rfl, ?_⟩,
          fun falls => falls.go_on (List.suffix_cons c rest)⟩
        rw [List.length_cons, Nat.add_comm]
      next => cases found
  | textStart | textEnd | lastLineFeed =>
    exact ⟨notes, s, edge_leaves found, List.suffix_refl _, ⟨0, rfl, by simp⟩, id⟩
  | mark free => exact ⟨_, s, found, List.suffix_refl _, ⟨0, rfl, by simp⟩, fun falls => falls.note _⟩
  | both _ _ front_ih back_ih =>
    obtain ⟨notes₁, s₁, found₁, behind₁, ⟨m, few, fits⟩, falls₁⟩ := front_ih found
    obtain ⟨notes₂, s₂, found₂, behind₂, ⟨n, few', fits'⟩, falls₂⟩ := back_ih found₁
    refine ⟨notes₂, s₂, found₂, behind₂.trans behind₁, ⟨m + n, ?_, by omega⟩, falls₂ ∘ falls₁⟩
    rw [Node.fewest, few, few']
    rfl
  | either _ _ one_ih others_ih =>
    rw [Node.read] at found
    obtain one | ⟨-, others⟩ := Option.or_eq_some_iff.mp found
    · split at one
      next =>
        obtain ⟨notes', s', found', behind, ⟨n, few, fits⟩, falls⟩ := one_ih one
        obtain ⟨m, few', fewer⟩ := fewest_either_first few
        exact ⟨notes', s', found', behind, ⟨m, few', by omega⟩, falls⟩
      next => cases one
    · obtain ⟨notes', s', found', behind, ⟨n, few, fits⟩, falls⟩ := others_ih others
      obtain ⟨m, few', fewer⟩ := fewest_either_rest few
      exact ⟨notes', s', found', behind, ⟨m, few', by omega⟩, falls⟩
  | greedy looped least most test next =>
    obtain ⟨s', found', behind, fits⟩ := take_most_leaves found
    rw [whereFits] at found'
    split at found'
    next => exact ⟨notes, s', found', behind, ⟨least, rfl, fits⟩, fun falls => falls.go_on behind⟩
    next => cases found'
  | lazy looped least test next =>
    obtain ⟨s', found', behind, fits⟩ := take_least_leaves found
    exact ⟨notes, s', found', behind, ⟨least, rfl, fits⟩, fun falls => falls.go_on behind⟩
  | optional plain ih =>
    obtain turn | ⟨-, passed⟩ := Option.or_eq_some_iff.mp found
    · obtain ⟨notes', s', found', behind, -, falls⟩ := ih turn
      exact ⟨notes', s', found', behind, ⟨0, rfl, by simpa using behind.length_le⟩, falls⟩
    · exact ⟨notes, s, passed, List.suffix_refl _, ⟨0, rfl, by simp⟩, id⟩

end Falling

/-! ### Whole patterns -/

/-- What a group took, as noted. -/
def Notes.taken (notes : Notes) (group : Nat) : Option (List Char) :=
  match notes[2 * group - 2]?, notes[2 * group - 1]? with
  | some (some start), some (some stop) => some (start.take (start.length - stop.length))
  | _, _ => none

/-- What the groups up to `count` took, as noted. -/
def Notes.groups (notes : Notes) (count : Nat) : List (Option String) :=
  (List.range count).map fun i => (notes.taken (i + 1)).map String.ofList

/-- Ends the reading: what was noted counts. -/
def noteAll : Onward := fun notes _ => some notes

/-- What is noted when the pattern is read in front of anything. -/
def readHere (p : Pattern) (whole s : List Char) : Option Notes := p.root.read whole noteAll [] s

/-- What the groups took when the pattern is read in front of anything. -/
def tellHere (p : Pattern) (whole s : List Char) : Option (List (Option String)) :=
  (p.readHere whole s).map fun notes => notes.groups p.groups

/-- A pattern that can be read, and whose width is what it says. -/
structure Readable (p : Pattern) : Prop where
  tidy : ∃ bound, Tidy 0 p.root bound
  least : p.root.fewest = some p.least
  front : p.plainFront = true → 0 < p.least

section Whole

variable {p : Pattern} {text : Subject}

theorem settled_answers (bound : Nat) :
    Answers text bound settled noteAll := fun _ _ _ _ same _ => .found same

/-- The marks of one attempt are what is noted when reading from there. -/
theorem attempt_reads (readable : p.Readable) {s : List Char} (behind : s <:+ text.toList) :
    Meets text.size (fun _ => True)
      (p.root.run text ⟨text.size - s.length, []⟩ (text.size - s.length) settled)
      (p.readHere text.toList s) := by
  obtain ⟨bound, tidy⟩ := readable.tidy
  have answers : Answers text 0 (fun trail place => p.root.run text trail place settled)
      (p.root.read text.toList noteAll) := run_answers tidy (settled_answers bound)
  have meets := answers ⟨text.size - s.length, []⟩ [] s (Nat.zero_le _) rfl behind
  exact meets.weaken fun _ _ => trivial

/-- Where less is left than the pattern takes, nothing is read. -/
theorem unread_of_short (readable : p.Readable) {whole s : List Char} (short : s.length < p.least) :
    p.readHere whole s = none := by
  obtain ⟨bound, tidy⟩ := readable.tidy
  by_contra read
  obtain ⟨notes, found⟩ := Option.ne_none_iff_exists'.mp read
  obtain ⟨-, s', -, -, ⟨n, few, fits⟩, -⟩ := read_leaves tidy found
  rw [readable.least, Option.some.injEq] at few
  omega

/-- Trying one place after the other, when nothing is read at those left out. -/
theorem search_from_eq (readable : p.Readable) {s : List Char} (behind : s <:+ text.toList) {left : Nat}
    (few : left ≤ s.length + 1)
    (rest : ∀ s', s' <:+ s → s'.length + left < s.length + 1 → p.readHere text.toList s' = none) :
    p.searchFrom text (text.size - s.length) left
      = (Failure.firstPlace (p.readHere text.toList) s).map (Notes.marks text.size) := by
  have meets := attempt_reads readable behind
  induction s generalizing left with
  | nil =>
    cases left with
    | zero =>
      rw [Failure.firstPlace, rest [] (List.suffix_refl _) (by simp)]
      rfl
    | succ left =>
      obtain rfl : left = 0 := by simpa using few
      rw [searchFrom, Failure.firstPlace]
      generalize p.root.run text _ _ _ = outcome, p.readHere text.toList [] = read at meets ⊢
      cases meets with
      | found same => exact congrArg some same
      | missed => rfl
  | cons c s ih =>
    cases left with
    | zero =>
      have nowhere : Failure.firstPlace (p.readHere text.toList) (c :: s) = none := by
        refine (Failure.first_place_eq_none_iff (fun _ _ => Iff.rfl) _).mpr ?_
        intro before later read cut there
        have behind' : later <:+ c :: s := ⟨before, cut.symm⟩
        rw [rest later behind' (Nat.lt_succ_of_le behind'.length_le)] at there
        cases there
      rw [nowhere]
      rfl
    | succ left =>
      have later := ih (rest_behind behind) (Nat.le_of_succ_le_succ few)
        (fun s' behind' fits => rest s' (behind'.trans (List.suffix_cons c s))
          (by rw [List.length_cons]; omega))
        (attempt_reads readable (rest_behind behind))
      rw [searchFrom, Failure.firstPlace, step_place behind, later]
      generalize p.root.run text _ _ _ = outcome, p.readHere text.toList (c :: s) = read at meets ⊢
      cases meets with
      | found same => exact congrArg some same
      | missed => rfl

/-- The places that a search leaves out have less behind them than the pattern takes. -/
theorem place_count_leaves (readable : p.Readable) (length : Nat) :
    p.placeCount length ≤ length + 1 ∧ length + 1 ≤ p.placeCount length + p.least := by
  unfold placeCount
  split
  next short => omega
  next enough =>
    split
    next front =>
      have positive := readable.front front
      omega
    next => omega

/-- What lies between two places told by what is left there. -/
theorem extract_between {start stop : List Char} (within : start <:+ text.toList)
    (order : stop <:+ start) :
    (text.extract (text.size - start.length) (text.size - stop.length)).toList
      = start.take (start.length - stop.length) := by
  obtain ⟨front, whole⟩ := within
  have size : text.size = front.length + start.length := by
    rw [← Array.length_toList, ← whole, List.length_append]
  have short := order.length_le
  rw [Array.toList_extract, ← whole, List.extract_eq_take_drop, size, Nat.add_sub_cancel,
    List.drop_left]
  congr 1
  omega

/-- A group takes what was noted that it took. -/
theorem taken_eq {notes : Notes} {s : List Char} (falls : Falls text.toList notes s) (i : Nat) :
    (notes.marks text.size).taken text (i + 1) = .ok ((notes.taken (i + 1)).map String.ofList) := by
  have noted (k : Nat) : (notes.marks text.size)[k]?
      = notes[k]?.map (Option.map fun rest => text.size - rest.length) := List.getElem?_map
  rw [Marks.taken, Marks.bounds?, noted, noted, Notes.taken]
  cases begun : notes[2 * (i + 1) - 2]? with
  | none => rfl
  | some start =>
    cases ended : notes[2 * (i + 1) - 1]? with
    | none => cases start <;> rfl
    | some stop =>
      match start, stop with
      | none, _ => rfl
      | some _, none => rfl
      | some start, some stop =>
        have order : stop <:+ start := by
          obtain ⟨early, begun⟩ := List.getElem?_eq_some_iff.mp begun
          obtain ⟨late, ended⟩ := List.getElem?_eq_some_iff.mp ended
          exact List.pairwise_iff_getElem.mp falls.order _ _ early late (by omega) start begun stop
            ended
        have within := falls.inside start (List.mem_of_getElem? begun)
        have forth : ¬ text.size - stop.length < text.size - start.length := by
          have short := order.length_le
          omega
        simp only [Option.map_some, if_neg forth, extract_between within order]

/-- Looking for the first place and then turning what is found there into something else. -/
theorem first_place_map {α β : Type} (here : List Char → Option α) (f : α → β) (s : List Char) :
    Failure.firstPlace (fun s => (here s).map f) s = (Failure.firstPlace here s).map f := by
  induction s with
  | nil => rfl
  | cons c rest ih =>
    rw [Failure.firstPlace, Failure.firstPlace, ih]
    cases here (c :: rest) <;> rfl

/-- A search finds what is read at the first place where anything is. -/
theorem search_reads (readable : p.Readable) (text : String) :
    p.search? text = .ok (Failure.firstPlace (p.tellHere text.toList) text.toList) := by
  have first : Failure.firstPlace (p.tellHere text.toList) text.toList
      = (Failure.firstPlace (p.readHere text.toList) text.toList).map fun notes =>
        notes.groups p.groups := first_place_map _ _ _
  obtain ⟨bound, tidy⟩ := readable.tidy
  have size : text.toList.toArray.size = text.toList.length := List.size_toArray
  have whole : text.toList <:+ text.toList.toArray.toList := List.suffix_refl _
  obtain ⟨few, enough⟩ := place_count_leaves readable text.toList.length
  have searched := search_from_eq readable whole few fun s _ fits =>
    unread_of_short readable (by omega)
  rw [size, Nat.sub_self] at searched
  simp only [search?, size, searched, first]
  cases found : Failure.firstPlace (p.readHere text.toList) text.toList with
  | none => rfl
  | some notes =>
    obtain ⟨before, rest, cut, told, -⟩ :=
      (Failure.first_place_eq_some_iff (fun _ _ => Iff.rfl) _ _).mp found
    obtain ⟨notes', s, same, -, -, falls⟩ := read_leaves tidy told
    obtain rfl := Option.some.inj same
    have falls' : Falls text.toList.toArray.toList notes' s :=
      falls (falls_at_first ⟨before, cut.symm⟩)
    have taken := taken_eq falls'
    rw [size] at taken
    have all : (List.range p.groups).mapM
        (fun i => (notes'.marks text.toList.length).taken text.toList.toArray (i + 1))
        = .ok (notes'.groups p.groups) := by
      simp only [taken]
      exact List.mapM_pure
    simp only [Option.map_some, Marks.allTaken, all]
    rfl

end Whole

end PlaybookLint.Pattern
