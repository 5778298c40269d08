import Mathlib.Data.List.TakeWhile
import PlaybookLint.Finding
import PlaybookLint.Proofs.Text

/-!
The grammar of report lines. A line can be read as a finding in as many ways as it can be cut into a
path, a number, a code and a message; the reader takes the way with the shortest path, and there is
only one. A line that was put together from such parts is read back as them, unless its path already
holds what looks like the end of another path.
-/

namespace PlaybookLint

namespace Finding

/-! ### The grammar -/

/-- What follows the path of a finding: a number between colons, a code in brackets between blanks,
and a message. -/
structure Tail (s number code message : List Char) : Prop where
  numbered : number ≠ []
  decimal : ∀ c ∈ number, Text.isDecimalDigit c = true
  coded : code ≠ []
  bare : ∀ c ∈ code, c ≠ ']' ∧ Text.isBlank c = false
  written : ∃ before after, Text.isBlank before = true ∧ Text.isBlank after = true ∧
    s = ':' :: (number ++ ':' :: before :: '[' :: (code ++ ']' :: after :: message))

/-- A way to read a line as a finding. -/
def Reads (line path number code message : List Char) : Prop :=
  path ≠ [] ∧ ∃ s, line = path ++ s ∧ Tail s number code message

/-- A way to read a line as a finding whose path is as short as possible. -/
def ReadsShortest (line path number code message : List Char) : Prop :=
  Reads line path number code message ∧
    ∀ path' number' code' message', Reads line path' number' code' message' →
      path.length ≤ path'.length

/-! ### The parts after the path -/

theorem is_code_char_iff (c : Char) :
    isCodeChar c = true ↔ c ≠ ']' ∧ Text.isBlank c = false := by
  simp only [isCodeChar, Bool.and_eq_true, bne_iff_ne, Bool.not_eq_true']

theorem line_eq_some_iff (s digits rest : List Char) :
    line? s = some (digits, rest) ↔
      digits ≠ [] ∧ (∀ c ∈ digits, Text.isDecimalDigit c = true) ∧
        s = ':' :: (digits ++ ':' :: rest) := by
  constructor
  · intro read
    unfold line? at read
    split at read
    · rename_i t
      simp only at read
      split at read
      · rename_i after stops
        split at read
        · cases read
        · rename_i filled
          cases read
          refine ⟨fun empty => filled (List.isEmpty_iff.mpr empty), Text.all_of_take_while t, ?_⟩
          rw [← stops, List.takeWhile_append_dropWhile]
      · cases read
    · cases read
  · rintro ⟨filled, decimal, rfl⟩
    have colon : Text.isDecimalDigit ':' = false := by decide +kernel
    have full : digits.isEmpty = false := List.isEmpty_eq_false_iff.mpr filled
    simp only [line?, Text.take_while_run decimal colon, Text.drop_while_run decimal colon, full,
      Bool.false_eq_true, if_false]

theorem code_eq_some_iff (s code rest : List Char) :
    code? s = some (code, rest) ↔
      code ≠ [] ∧ (∀ c ∈ code, isCodeChar c = true) ∧
        ∃ before after, Text.isBlank before = true ∧ Text.isBlank after = true ∧
          s = before :: '[' :: (code ++ ']' :: after :: rest) := by
  constructor
  · intro read
    unfold code? at read
    split at read
    · rename_i before t
      simp only at read
      split at read
      · rename_i after t' stops
        split at read
        · rename_i passes
          cases read
          simp only [Bool.and_eq_true, Bool.not_eq_true', List.isEmpty_eq_false_iff] at passes
          refine ⟨passes.1.2, Text.all_of_take_while t, before, after, passes.1.1, passes.2, ?_⟩
          rw [← stops, List.takeWhile_append_dropWhile]
        · cases read
      · cases read
    · cases read
  · rintro ⟨filled, bare, before, after, blank, blank', rfl⟩
    have bracket : isCodeChar ']' = false := by decide
    have full : code.isEmpty = false := List.isEmpty_eq_false_iff.mpr filled
    simp only [code?, Text.take_while_run bare bracket, Text.drop_while_run bare bracket, blank,
      blank', full, Bool.not_false, Bool.and_self, if_true]

theorem message_of_single {s : List Char} (single : '\n' ∉ s) :
    messageAndRest? s = some (s, []) := by
  have passes : ∀ c ∈ s, (c != '\n') = true := by
    intro c among
    rw [bne_iff_ne]
    intro same
    rw [same] at among
    exact single among
  have all : s.takeWhile (· != '\n') = s := List.takeWhile_eq_self_iff.mpr passes
  have nothing : s.dropWhile (· != '\n') = [] := List.dropWhile_eq_nil_iff.mpr passes
  simp only [messageAndRest?, all, nothing, List.isEmpty_nil, Bool.true_or, if_true]

theorem bare_iff (code : List Char) :
    (∀ c ∈ code, isCodeChar c = true) ↔ ∀ c ∈ code, c ≠ ']' ∧ Text.isBlank c = false := by
  simp only [is_code_char_iff]

theorem Tail.message_single {s number code message : List Char}
    (tail : Tail s number code message) (single : '\n' ∉ s) : '\n' ∉ message := by
  obtain ⟨_, _, _, _, before, after, _, _, written⟩ := tail
  intro among
  apply single
  rw [written]
  simp only [List.mem_cons, List.mem_append]
  exact .inr (.inr (.inr (.inr (.inr (.inr (.inr (.inr among)))))))

/-- The parts after a path are read exactly where they are written. -/
theorem after_path_eq_some_iff {s : List Char} (single : '\n' ∉ s) (f : Finding) :
    afterPath? s = some f ↔ f.path = [] ∧ f.rest = [] ∧ Tail s f.line f.code f.message := by
  constructor
  · intro read
    simp only [afterPath?, Option.bind_eq_bind, Option.bind_eq_some_iff] at read
    obtain ⟨⟨number, s₁⟩, numbered, ⟨code, s₂⟩, coded, ⟨message, rest⟩, told, made⟩ := read
    obtain ⟨filled, decimal, written⟩ := (line_eq_some_iff s number s₁).mp numbered
    obtain ⟨filled', bare, before, after, blank, blank', written'⟩ :=
      (code_eq_some_iff s₁ code s₂).mp coded
    rw [written'] at written
    have tail : Tail s number code s₂ :=
      ⟨filled, decimal, filled', (bare_iff code).mp bare, before, after, blank, blank', written⟩
    rw [message_of_single (tail.message_single single)] at told
    cases told
    cases made
    exact ⟨rfl, rfl, tail⟩
  · rintro ⟨noPath, noRest, tail⟩
    obtain ⟨path, number, code, message, rest⟩ := f
    simp only at noPath noRest tail
    subst noPath noRest
    have told := message_of_single (tail.message_single single)
    obtain ⟨filled, decimal, filled', bare, before, after, blank, blank', written⟩ := tail
    have numbered := (line_eq_some_iff s number _).mpr ⟨filled, decimal, written⟩
    have coded := (code_eq_some_iff _ code message).mpr
      ⟨filled', (bare_iff code).mpr bare, before, after, blank, blank', rfl⟩
    simp only [afterPath?, numbered, coded, told, Option.bind_eq_bind, Option.bind_some]
    rfl

/-! ### The shortest path -/

theorem shortest_of_tail {c : Char} {s : List Char} {f : Finding}
    (here : afterPath? (c :: s) = some f) : shortest? (c :: s) = some f := by
  simp only [shortest?, here]

theorem shortest_of_no_tail {c : Char} {s : List Char} (here : afterPath? (c :: s) = none)
    (inside : c ≠ '\n') : shortest? (c :: s) = (shortest? s).map (lengthen c) := by
  have other : (c == '\n') = false := beq_eq_false_iff_ne.mpr inside
  simp only [shortest?, here, other, Bool.false_eq_true, if_false]

/-- A finding whose path is, among those of at least some length, the shortest after which the other
parts can be read. -/
structure Nearest (least : Nat) (s : List Char) (f : Finding) : Prop where
  complete : f.rest = []
  long : least ≤ f.path.length
  written : ∃ t, s = f.path ++ t ∧ Tail t f.line f.code f.message
  shortest : ∀ q t number code message, s = q ++ t → least ≤ q.length →
    Tail t number code message → f.path.length ≤ q.length

theorem nearest_succ_iff (least : Nat) (c : Char) (s : List Char) (f : Finding) :
    Nearest (least + 1) (c :: s) f ↔ ∃ g, Nearest least s g ∧ lengthen c g = f := by
  constructor
  · rintro ⟨complete, long, ⟨t, written, tail⟩, shortest⟩
    obtain ⟨path, number, code, message, rest⟩ := f
    cases path with
    | nil => cases long
    | cons d path =>
        obtain ⟨same, written'⟩ := List.cons.inj written
        subst same
        refine ⟨⟨path, number, code, message, rest⟩,
          ⟨complete, Nat.le_of_succ_le_succ long, ⟨t, written', tail⟩, ?_⟩, rfl⟩
        intro q t' number' code' message' cut long' tail'
        have cut' : c :: s = (c :: q) ++ t' := by rw [cut, List.cons_append]
        exact Nat.le_of_succ_le_succ
          (shortest (c :: q) t' number' code' message' cut' (Nat.succ_le_succ long') tail')
  · rintro ⟨g, ⟨complete, long, ⟨t, written, tail⟩, shortest⟩, same⟩
    subst same
    refine ⟨complete, Nat.succ_le_succ long, ⟨t, by rw [written]; rfl, tail⟩, ?_⟩
    intro q t' number code message cut long' tail'
    cases q with
    | nil => cases long'
    | cons d q =>
        have cut' : s = q ++ t' := (List.cons.inj cut).2
        exact Nat.succ_le_succ
          (shortest q t' number code message cut' (Nat.le_of_succ_le_succ long') tail')

/-- Where nothing can be read at once, the empty path does not count. -/
theorem nearest_zero_iff {s : List Char}
    (noTail : ∀ number code message, ¬Tail s number code message) (f : Finding) :
    Nearest 0 s f ↔ Nearest 1 s f := by
  have long_of_tail {q t number code message : List Char} (cut : s = q ++ t)
      (tail : Tail t number code message) : 1 ≤ q.length := by
    cases q with
    | nil =>
        rw [List.nil_append] at cut
        rw [← cut] at tail
        exact absurd tail (noTail number code message)
    | cons d q => exact Nat.succ_le_succ (Nat.zero_le _)
  constructor
  · rintro ⟨complete, _, ⟨t, written, tail⟩, shortest⟩
    refine ⟨complete, long_of_tail written tail, ⟨t, written, tail⟩, ?_⟩
    intro q t' number code message cut _ tail'
    exact shortest q t' number code message cut (Nat.zero_le _) tail'
  · rintro ⟨complete, _, written, shortest⟩
    refine ⟨complete, Nat.zero_le _, written, ?_⟩
    intro q t' number code message cut _ tail'
    exact shortest q t' number code message cut (long_of_tail cut tail') tail'

/-- Where something can be read at once, the empty path is the shortest. -/
theorem nearest_of_tail {s : List Char} {g : Finding} (noPath : g.path = [])
    (complete : g.rest = []) (tail : Tail s g.line g.code g.message) : Nearest 0 s g := by
  refine ⟨complete, Nat.zero_le _, ⟨s, ?_, tail⟩, ?_⟩
  · rw [noPath, List.nil_append]
  · intro q t number code message _ _ _
    rw [noPath]
    exact Nat.zero_le _

theorem tail_not_nil {s number code message : List Char} (tail : Tail s number code message) :
    s ≠ [] := by
  obtain ⟨_, _, _, _, _, _, _, _, written⟩ := tail
  rw [written]
  exact List.cons_ne_nil _ _

theorem not_tail_of_none {s : List Char} (single : '\n' ∉ s) (none : afterPath? s = none)
    (number code message : List Char) : ¬Tail s number code message := by
  intro tail
  have read := (after_path_eq_some_iff single ⟨[], number, code, message, []⟩).mpr ⟨rfl, rfl, tail⟩
  rw [none] at read
  cases read

theorem shortest_eq_some_iff {s : List Char} (single : '\n' ∉ s) (f : Finding) :
    shortest? s = some f ↔ Nearest 0 s f := by
  induction s generalizing f with
  | nil =>
      constructor
      · intro read
        cases read
      · rintro ⟨_, _, ⟨t, written, tail⟩, _⟩
        have empty : t = [] := (List.append_eq_nil_iff.mp written.symm).2
        exact absurd empty (tail_not_nil tail)
  | cons c s ih =>
      have inside : c ≠ '\n' := fun same => single (same ▸ List.mem_cons_self)
      have single' : '\n' ∉ s := fun among => single (List.mem_cons_of_mem c among)
      cases here : afterPath? (c :: s) with
      | some g =>
          rw [shortest_of_tail here]
          obtain ⟨noPath, complete, tail⟩ := (after_path_eq_some_iff single g).mp here
          constructor
          · intro same
            cases same
            exact nearest_of_tail noPath complete tail
          · rintro ⟨complete', _, ⟨t, written, tail'⟩, shortest⟩
            have short := shortest [] (c :: s) g.line g.code g.message rfl (Nat.zero_le _) tail
            have noPath' : f.path = [] := List.length_eq_zero_iff.mp (Nat.le_zero.mp short)
            rw [noPath', List.nil_append] at written
            rw [← written] at tail'
            rw [← here, (after_path_eq_some_iff single f).mpr ⟨noPath', complete', tail'⟩]
      | none =>
          have noTail := not_tail_of_none single here
          rw [shortest_of_no_tail here inside, nearest_zero_iff noTail, nearest_succ_iff,
            Option.map_eq_some_iff]
          simp only [ih single']

/-! ### Whole lines -/

theorem nearest_one_iff (line : List Char) (f : Finding) :
    Nearest 1 line f ↔ f.rest = [] ∧ ReadsShortest line f.path f.line f.code f.message := by
  have long_iff (path : List Char) : 1 ≤ path.length ↔ path ≠ [] := by
    rw [Nat.one_le_iff_ne_zero, ne_eq, List.length_eq_zero_iff]
  constructor
  · rintro ⟨complete, long, written, shortest⟩
    refine ⟨complete, ⟨(long_iff f.path).mp long, written⟩, ?_⟩
    rintro path' number' code' message' ⟨filled, t, cut, tail⟩
    exact shortest path' t number' code' message' cut ((long_iff path').mpr filled) tail
  · rintro ⟨complete, ⟨filled, written⟩, shortest⟩
    refine ⟨complete, (long_iff f.path).mpr filled, written, ?_⟩
    intro q t number code message cut long tail
    exact shortest q number code message ⟨(long_iff q).mp long, t, cut, tail⟩

/-- A line is read in the way with the shortest path. -/
theorem read_eq_some_iff {line : List Char} (single : '\n' ∉ line) (f : Finding) :
    read? line = some f ↔ f.rest = [] ∧ ReadsShortest line f.path f.line f.code f.message := by
  rw [← nearest_one_iff]
  cases line with
  | nil =>
      constructor
      · intro read
        cases read
      · rintro ⟨_, long, ⟨t, written, _⟩, _⟩
        rw [(List.append_eq_nil_iff.mp written.symm).1] at long
        cases long
  | cons c s =>
      have inside : (c == '\n') = false :=
        beq_eq_false_iff_ne.mpr fun same => single (same ▸ List.mem_cons_self)
      have single' : '\n' ∉ s := fun among => single (List.mem_cons_of_mem c among)
      rw [nearest_succ_iff]
      simp only [read?, inside, Bool.false_eq_true, if_false, Option.map_eq_some_iff,
        shortest_eq_some_iff single']

/-! ### No overlap -/

theorem colon_not_digit : Text.isDecimalDigit ':' = false := by decide +kernel

theorem digit_is_code_char {c : Char} (digit : Text.isDecimalDigit c = true) :
    isCodeChar c = true := by
  rw [is_code_char_iff]
  refine ⟨?_, Text.digit_not_blank digit⟩
  intro same
  rw [same] at digit
  revert digit
  decide +kernel

theorem blank_ne_colon {c : Char} (blank : Text.isBlank c = true) : c ≠ ':' := by
  intro same
  rw [same] at blank
  revert blank
  decide

/-- Behind its first colon, what comes before the message of a tail has a colon after the number, and
others only inside the code. -/
theorem colon_cases {number code u v : List Char} {before after : Char}
    (decimal : ∀ c ∈ number, Text.isDecimalDigit c = true) (blank : Text.isBlank before = true)
    (blank' : Text.isBlank after = true)
    (cut : number ++ ':' :: before :: '[' :: (code ++ [']', after]) = u ++ ':' :: v) :
    (∃ y, v = before :: y) ∨ ∃ z' z, code = z' ++ z ∧ ':' :: v = z ++ [']', after] := by
  rcases List.append_eq_append_iff.mp cut with ⟨z, _, tail⟩ | ⟨z, split, tail⟩
  · rcases List.cons_eq_append_iff.mp tail with ⟨_, colon⟩ | ⟨z₁, _, tail₁⟩
    · exact .inl ⟨_, (List.cons.inj colon).2⟩
    rcases List.cons_eq_append_iff.mp tail₁ with ⟨_, colon⟩ | ⟨z₂, _, tail₂⟩
    · exact absurd (List.cons.inj colon).1.symm (blank_ne_colon blank)
    rcases List.cons_eq_append_iff.mp tail₂ with ⟨_, colon⟩ | ⟨z₃, _, tail₃⟩
    · exact absurd (List.cons.inj colon).1 (by decide)
    rcases List.append_eq_append_iff.mp tail₃ with ⟨z₄, _, tail₄⟩ | ⟨z₄, split, tail₄⟩
    · rcases List.cons_eq_append_iff.mp tail₄ with ⟨_, colon⟩ | ⟨z₅, _, tail₅⟩
      · exact absurd (List.cons.inj colon).1 (by decide)
      rcases List.cons_eq_append_iff.mp tail₅ with ⟨_, colon⟩ | ⟨z₆, _, tail₆⟩
      · exact absurd (List.cons.inj colon).1.symm (blank_ne_colon blank')
      · cases (List.append_eq_nil_iff.mp tail₆.symm).2
    · exact .inr ⟨z₃, z₄, split, tail₄⟩
  · rcases List.cons_eq_append_iff.mp tail with ⟨_, colon⟩ | ⟨z₁, begins, _⟩
    · exact .inl ⟨_, (List.cons.inj colon).2.symm⟩
    · have among : ':' ∈ number := by
        rw [split, begins]
        exact List.mem_append_right _ List.mem_cons_self
      have digit := decimal ':' among
      rw [colon_not_digit] at digit
      cases digit

/-- Where a text goes on as a tail does, what comes before the message of another tail does not end,
unless the two begin together. -/
theorem tails_begin_apart {number code u v w message rest : List Char} {before after blank : Char}
    (decimal : ∀ c ∈ number, Text.isDecimalDigit c = true)
    (bare : ∀ c ∈ code, isCodeChar c = true) (blankBefore : Text.isBlank before = true)
    (blankAfter : Text.isBlank after = true)
    (cut : number ++ ':' :: before :: '[' :: (code ++ [']', after]) = u ++ ':' :: v)
    (filled : w ≠ []) (decimal' : ∀ c ∈ w, Text.isDecimalDigit c = true)
    (blank' : Text.isBlank blank = true) (goesOn : v ++ message = w ++ ':' :: blank :: rest) :
    False := by
  rcases colon_cases decimal blankBefore blankAfter cut with ⟨y, second⟩ | ⟨z', z, split, inCode⟩
  · -- The colon after the number is followed by a blank, but a digit is due.
    obtain ⟨d, w', rfl⟩ := List.exists_cons_of_ne_nil filled
    rw [second] at goesOn
    have notBlank := Text.digit_not_blank (decimal' d List.mem_cons_self)
    rw [← (List.cons.inj goesOn).1, blankBefore] at notBlank
    cases notBlank
  · -- A colon in the code is followed by the bracket that closes it, but a blank is due first.
    have both : z ++ ']' :: after :: message = (':' :: w ++ [':']) ++ blank :: rest := by
      calc z ++ ']' :: after :: message = ':' :: v ++ message := by
            rw [inCode, List.append_assoc]
            rfl
        _ = (':' :: w ++ [':']) ++ blank :: rest := by
            rw [List.cons_append, goesOn, List.append_assoc]
            rfl
    have run : ∀ c ∈ ':' :: w ++ [':'], isCodeChar c = true := by
      intro c among
      have colonBare : isCodeChar ':' = true := by decide
      simp only [List.cons_append, List.mem_cons, List.mem_append, List.not_mem_nil, or_false]
        at among
      rcases among with rfl | digit | rfl
      · exact colonBare
      · exact digit_is_code_char (decimal' c digit)
      · exact colonBare
    have within : ∀ c ∈ z, isCodeChar c = true := by
      intro c among
      apply bare
      rw [split]
      exact List.mem_append_right z' among
    have stop : isCodeChar blank = false := by
      rw [isCodeChar, blank', Bool.not_true, Bool.and_false]
    obtain ⟨_, closes, _⟩ := Text.runs_eq within run (by decide) stop both
    rw [← closes] at blank'
    revert blank'
    decide

/-- A tail that begins inside a path ends inside it, if another tail follows the path. -/
theorem Tail.ends_before {u rest number code message number' code' message' : List Char}
    (inner : Tail (u ++ rest) number' code' message') (outer : Tail rest number code message)
    (begun : u ≠ []) : ∃ q k, u = q ++ k ∧ Tail q number' code' [] := by
  obtain ⟨filled', decimal', coded', bare', before', after', blankBefore', blankAfter', written'⟩ :=
    inner
  obtain ⟨filled, decimal, _, _, before, _, blankBefore, _, written⟩ := outer
  have stub : Tail (':' :: (number' ++ ':' :: before' :: '[' :: (code' ++ [']', after'])))
      number' code' [] :=
    ⟨filled', decimal', coded', bare', before', after', blankBefore', blankAfter', rfl⟩
  have cut : u ++ rest =
      ':' :: (number' ++ ':' :: before' :: '[' :: (code' ++ [']', after'])) ++ message' := by
    rw [written']
    simp only [List.cons_append, List.append_assoc, List.nil_append]
  rcases List.append_eq_append_iff.mp cut with ⟨v, long, goesOn⟩ | ⟨k, short, _⟩
  · cases v with
    | nil =>
        rw [List.append_nil] at long
        rw [long] at stub
        exact ⟨u, [], (List.append_nil u).symm, stub⟩
    | cons x v =>
        obtain ⟨y, u, rfl⟩ := List.exists_cons_of_ne_nil begun
        rw [written, List.cons_append] at goesOn
        obtain ⟨colon, goesOn⟩ := List.cons.inj goesOn
        rw [← colon] at long
        have inside := (List.cons.inj long).2
        exact (tails_begin_apart decimal' ((bare_iff code').mpr bare') blankBefore' blankAfter' inside
          filled decimal blankBefore goesOn.symm).elim
  · exact ⟨_, k, short, stub⟩

/-- No beginning of a path looks like the path of a finding and all that comes before its message. -/
def Unmarked (path : List Char) : Prop :=
  ∀ q, q <+: path → ∀ path' number code, ¬Reads q path' number code []

/-- Behind an unmarked path, a tail is read as it is written. -/
theorem reads_shortest_of_unmarked {path s number code message : List Char} (filled : path ≠ [])
    (unmarked : Unmarked path) (tail : Tail s number code message) :
    ReadsShortest (path ++ s) path number code message := by
  refine ⟨⟨filled, s, rfl, tail⟩, ?_⟩
  rintro path' number' code' message' ⟨filled', t, cut, tail'⟩
  rw [← Nat.not_lt]
  intro shorter
  rcases List.append_eq_append_iff.mp cut with ⟨u, long, _⟩ | ⟨u, split, rest⟩
  · rw [long, List.length_append] at shorter
    omega
  · have begun : u ≠ [] := by
      intro none
      rw [split, none, List.append_nil] at shorter
      exact Nat.lt_irrefl _ shorter
    rw [rest] at tail'
    obtain ⟨q, k, ends, stub⟩ := tail'.ends_before tail begun
    have before : path' ++ q <+: path := ⟨k, by rw [split, ends, List.append_assoc]⟩
    exact unmarked (path' ++ q) before path' number' code' ⟨filled', q, rfl, stub⟩

/-- The shortest way to read a line is one way. -/
theorem reads_shortest_unique {line path number code message path' number' code' message' : List Char}
    (single : '\n' ∉ line) (reads : ReadsShortest line path number code message)
    (reads' : ReadsShortest line path' number' code' message') :
    path = path' ∧ number = number' ∧ code = code' ∧ message = message' := by
  have read := (read_eq_some_iff single ⟨path, number, code, message, []⟩).mpr ⟨rfl, reads⟩
  have read' := (read_eq_some_iff single ⟨path', number', code', message', []⟩).mpr ⟨rfl, reads'⟩
  rw [read] at read'
  cases read'
  exact ⟨rfl, rfl, rfl, rfl⟩

/-- Of the ways to read a line, if there is one, there is a shortest. -/
theorem reads_shortest_exists {line path number code message : List Char}
    (reads : Reads line path number code message) :
    ∃ path number code message, ReadsShortest line path number code message := by
  induction size : path.length using Nat.strongRecOn generalizing path number code message with
  | ind size ih =>
      by_cases shortest : ReadsShortest line path number code message
      · exact ⟨path, number, code, message, shortest⟩
      · have shorter : ∃ path' number' code' message', Reads line path' number' code' message' ∧
            path'.length < path.length := by
          by_contra none
          apply shortest
          refine ⟨reads, ?_⟩
          intro path' number' code' message' reads'
          rw [← Nat.not_lt]
          intro less
          exact none ⟨path', number', code', message', reads', less⟩
        obtain ⟨path', number', code', message', reads', less⟩ := shorter
        rw [size] at less
        exact ih path'.length less reads' rfl

end Finding

namespace Report

open Finding

/-- The diagnostic for the parts that a line is read as, the number having a value. -/
def diagnosticOf (target : Target) (line path code message : List Char) (value : Nat) : Diagnostic where
  severity := .warning
  excerpt := String.ofList message
  file :=
    if path == target.name.toList || Text.occurs target.name.toList line then target.name
    else target.locate (String.ofList path)
  range := ⟨⟨value - 1, 0⟩, ⟨value - 1, 1⟩⟩
  code := some (String.ofList code)

/-- A line of a report, written out. -/
def writtenLine (path : String) (n : Nat) (code message : String) : String :=
  s!"{path}:{n}: [{code}] {message}"

theorem range_of_line (line : Nat) :
    Range.ofReport (line : Int) none = ⟨⟨line - 1, 0⟩, ⟨line - 1, 1⟩⟩ := by
  have column : ((1 : Int) - 1).toNat = 0 := rfl
  have above : ((line : Int) - 1).toNat = line - 1 := by omega
  simp only [Range.ofReport, Range.oneColumn, Position.ofOneBased, column, above]

theorem diagnostic_of_parts (target : Target) (line path number code message : List Char) :
    (⟨path, number, code, message, []⟩ : Finding).diagnostic target line =
      (Text.readNumber number).map (diagnosticOf target line path code message) := by
  have all : (⟨path, number, code, message, []⟩ : Finding).shown line = line := List.take_length
  have same (value : Nat) :
      (⟨.warning, String.ofList message,
        (⟨path, number, code, message, []⟩ : Finding).file target line, .ofReport value none,
        some (String.ofList code)⟩ : Diagnostic) =
        diagnosticOf target line path code message value := by
    simp only [Finding.file, all, range_of_line, diagnosticOf]
  cases read : Text.readNumber number with
  | error refusal =>
      simp only [diagnostic, read]
      rfl
  | ok value =>
      simp only [diagnostic, read]
      exact congrArg Except.ok (same value)

theorem diagnostics_single {line : List Char} (single : '\n' ∉ line) (target : Target) :
    diagnostics target (String.ofList line) = diagnosticsOfLines target [line] := by
  rw [diagnostics, String.toList_ofList, Text.split_lines_single single]

theorem diagnostics_unread {line : List Char} (single : '\n' ∉ line)
    (unread : ¬∃ path number code message, Reads line path number code message) (target : Target) :
    diagnostics target (String.ofList line) = .ok [] := by
  rw [diagnostics_single single, diagnosticsOfLines]
  cases read : read? line with
  | none => rfl
  | some f =>
      have reads := ((read_eq_some_iff single f).mp read).2.1
      exact absurd ⟨_, _, _, _, reads⟩ unread

/-- The diagnostics of a line, by the shortest way to read it. -/
theorem diagnostics_read {line path number code message : List Char} (single : '\n' ∉ line)
    (reads : ReadsShortest line path number code message) (target : Target) :
    diagnostics target (String.ofList line) =
      if 4300 < number.length then .error ⟨number.length⟩
      else .ok [diagnosticOf target line path code message (Text.digitsValue number)] := by
  have read := (read_eq_some_iff single ⟨path, number, code, message, []⟩).mpr ⟨rfl, reads⟩
  rw [diagnostics_single single, diagnosticsOfLines, read]
  simp only [diagnostic_of_parts]
  by_cases long : 4300 < number.length
  · rw [if_pos long, Text.read_number_error long]
    rfl
  · rw [if_neg long, Text.read_number_ok long]
    rfl

theorem to_list_ne_nil {s : String} (filled : s ≠ "") : s.toList ≠ [] :=
  fun none => filled (String.toList_inj.mp none)

theorem written_line_parts (path : String) (n : Nat) (code message : String) :
    (writtenLine path n code message).toList =
      path.toList ++ ':' :: (Nat.toDigits 10 n ++ ':' :: ' ' :: '[' ::
        (code.toList ++ ']' :: ' ' :: message.toList)) := by
  simp only [writtenLine, toString, String.toList_append, Nat.toList_repr, List.append_assoc]
  rfl

/-- A line that is written out from its parts, behind an unmarked path, is read as them. -/
theorem written_line_reads {path : String} {n : Nat} {code message : String} (filled : path ≠ "")
    (coded : code ≠ "") (bare : ∀ c ∈ code.toList, c ≠ ']' ∧ Text.isBlank c = false)
    (unmarked : Unmarked path.toList) :
    ReadsShortest (writtenLine path n code message).toList path.toList (Nat.toDigits 10 n)
      code.toList message.toList := by
  rw [written_line_parts]
  apply reads_shortest_of_unmarked (to_list_ne_nil filled) unmarked
  exact ⟨Nat.toDigits_ne_nil, Text.to_digits_decimal n, to_list_ne_nil coded, bare, ' ', ' ',
    by decide, by decide, rfl⟩

theorem written_line_single {path : String} {n : Nat} {code message : String}
    (single : '\n' ∉ path.toList) (bare : ∀ c ∈ code.toList, c ≠ ']' ∧ Text.isBlank c = false)
    (single' : '\n' ∉ message.toList) : '\n' ∉ (writtenLine path n code message).toList := by
  have number : '\n' ∉ Nat.toDigits 10 n := Text.feed_not_in_numeral n
  have inCode : '\n' ∉ code.toList := by
    intro among
    have notBlank := (bare _ among).2
    revert notBlank
    decide
  rw [written_line_parts]
  simp only [List.mem_append, List.mem_cons, single, single', number, inCode, false_or, or_false]
  decide

/-- The reports of single lines are decoded without loss or choice. A line that can be read in no way
gives nothing; any other gives one warning, for the one way with the shortest path, unless its number
has too many digits. A line that is written out from its parts is read back as them, if no beginning
of its path looks like the front of a finding. -/
theorem report_lines_decoded (target : Target) :
    (∀ line : List Char, '\n' ∉ line →
      ((¬∃ path number code message, Reads line path number code message) →
        diagnostics target (String.ofList line) = .ok []) ∧
      ((∃ path number code message, Reads line path number code message) →
        ∃ path number code message, ReadsShortest line path number code message ∧
          (∀ path' number' code' message', ReadsShortest line path' number' code' message' →
            path = path' ∧ number = number' ∧ code = code' ∧ message = message') ∧
          diagnostics target (String.ofList line) =
            if 4300 < number.length then .error ⟨number.length⟩
            else .ok [diagnosticOf target line path code message (Text.digitsValue number)])) ∧
    ∀ (path : String) (n : Nat) (code message : String), path ≠ "" → '\n' ∉ path.toList →
      code ≠ "" → (∀ c ∈ code.toList, c ≠ ']' ∧ Text.isBlank c = false) → '\n' ∉ message.toList →
      Unmarked path.toList → (Nat.toDigits 10 n).length ≤ 4300 →
        read? (writtenLine path n code message).toList =
            some ⟨path.toList, Nat.toDigits 10 n, code.toList, message.toList, []⟩ ∧
          diagnostics target (writtenLine path n code message) =
            .ok [diagnosticOf target (writtenLine path n code message).toList path.toList
              code.toList message.toList n] := by
  constructor
  · intro line single
    refine ⟨fun unread => diagnostics_unread single unread target, ?_⟩
    rintro ⟨path, number, code, message, reads⟩
    obtain ⟨path, number, code, message, shortest⟩ := reads_shortest_exists reads
    refine ⟨path, number, code, message, shortest, ?_, diagnostics_read single shortest target⟩
    intro path' number' code' message' other
    exact reads_shortest_unique single shortest other
  · intro path n code message filled single coded bare single' unmarked short
    have line : '\n' ∉ (writtenLine path n code message).toList :=
      written_line_single single bare single'
    have reads : ReadsShortest (writtenLine path n code message).toList path.toList
        (Nat.toDigits 10 n) code.toList message.toList :=
      written_line_reads filled coded bare unmarked
    refine ⟨(read_eq_some_iff line _).mpr ⟨rfl, reads⟩, ?_⟩
    have decoded := diagnostics_read line reads target
    rw [String.ofList_toList, if_neg (Nat.not_lt.mpr short), Text.digits_value_to_digits] at decoded
    exact decoded

/-- A path without closing brackets is unmarked, whatever colons and digits it has. -/
theorem unmarked_of_no_bracket {path : List Char} (plain : ']' ∉ path) : Unmarked path := by
  rintro q before path' number code ⟨_, s, cut, tail⟩
  obtain ⟨_, _, _, _, _, _, _, _, written⟩ := tail
  apply plain
  apply before.subset
  rw [cut, written]
  simp only [List.mem_append, List.mem_cons, true_or, or_true]

/-- Neither a path nor a message that looks like a finding is mistaken for one. -/
theorem twisted_line_decoded :
    '\n' ∉ (writtenLine "site:3: .yml" 2 "E502" "see b.yml:7: [E301] names").toList ∧
      Unmarked "site:3: .yml".toList ∧
      diagnostics ⟨.ofText "/work/site.yml", .ofText "/work"⟩
          (writtenLine "site:3: .yml" 2 "E502" "see b.yml:7: [E301] names") =
        .ok [⟨.warning, "see b.yml:7: [E301] names", "/work/site:3: .yml", ⟨⟨1, 0⟩, ⟨1, 1⟩⟩,
          some "E502"⟩] := by
  have unmarked : Unmarked "site:3: .yml".toList := unmarked_of_no_bracket (by decide)
  have bare : ∀ c ∈ "E502".toList, c ≠ ']' ∧ Text.isBlank c = false :=
    (bare_iff "E502".toList).mp (List.all_eq_true.mp (by decide))
  have single : '\n' ∉ (writtenLine "site:3: .yml" 2 "E502" "see b.yml:7: [E301] names").toList :=
    written_line_single (by decide) bare (by decide)
  have decoded := (report_lines_decoded ⟨.ofText "/work/site.yml", .ofText "/work"⟩).2
    "site:3: .yml" 2 "E502" "see b.yml:7: [E301] names" (by decide) (by decide) (by decide) bare
    (by decide) unmarked (by decide)
  refine ⟨single, unmarked, decoded.2.trans ?_⟩
  exact congrArg (fun found => Except.ok [found]) (by decide +kernel)

end Report

end PlaybookLint
