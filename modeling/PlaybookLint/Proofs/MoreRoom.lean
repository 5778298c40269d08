import Mathlib
import PlaybookLint.Pattern

/-!
Compiling a pattern where calls may nest deeper. More room changes nothing but that a pattern whose
calls nested too deep may be compiled after all: a text is read the same, flags take the same effect,
and every other refusal stays. No room is enough for all patterns.
-/

namespace PlaybookLint.Pattern

/-- The second comes to the same as the first unless there was no room for the first. -/
def Keeps {α : Type} (x y : Except Fault α) : Prop := x = .error (.excess .nesting) ∨ x = y

namespace Keeps

variable {α β : Type} {x y : Except Fault α}

theorem refl (x : Except Fault α) : Keeps x x := .inr rfl

theorem bind {f g : α → Except Fault β} (first : Keeps x y) (next : ∀ a, Keeps (f a) (g a)) :
    Keeps (x >>= f) (y >>= g) := by
  rcases first with refused | rfl
  · exact .inl (by rw [refused]; rfl)
  · cases x with
    | error fault => exact .inr rfl
    | ok a => exact next a

theorem deeper {room more : Nat} (le : room ≤ more) {f g : Nat → Except Fault α}
    (next : ∀ room more, room ≤ more → Keeps (f room) (g more)) :
    Keeps (deeper room f) (deeper more g) := by
  cases room with
  | zero => exact .inl rfl
  | succ room =>
      cases more with
      | zero => cases le
      | succ more => exact next room more (Nat.le_of_succ_le_succ le)

theorem check_room {room more : Nat} (le : room ≤ more) (needed : Nat) :
    Keeps (checkRoom room needed : Except Fault Unit) (checkRoom more needed) := by
  by_cases short : room < needed
  · exact .inl (if_pos short)
  · exact .inr ((if_neg short).trans (if_neg fun short' => short (Nat.lt_of_le_of_lt le short')).symm)

end Keeps

/-! ### Reading -/

namespace Reading

/-- From wherever it starts, the second reading keeps what the first comes to. -/
def Keeps {α : Type} (m n : Reading α) : Prop := ∀ s, Pattern.Keeps (m s) (n s)

namespace Keeps

variable {α β : Type} {m n : Reading α}

theorem refl (m : Reading α) : Keeps m m := fun s => .refl (m s)

theorem bind {f g : α → Reading β} (first : Keeps m n) (next : ∀ a, Keeps (f a) (g a)) :
    Keeps (m >>= f) (n >>= g) :=
  fun s => (first s).bind fun (a, s') => next a s'

/-- What is done before with the same room makes no difference. -/
theorem after (m : Reading α) {f g : α → Reading β} (next : ∀ a, Keeps (f a) (g a)) :
    Keeps (m >>= f) (m >>= g) :=
  (refl m).bind next

theorem map (f : α → β) (read : Keeps m n) : Keeps (f <$> m) (f <$> n) :=
  fun s => (read s).bind fun _ => .refl _

theorem deeper {room more : Nat} (le : room ≤ more) {f g : Nat → Reading α}
    (next : ∀ room more, room ≤ more → Keeps (f room) (g more)) :
    Keeps (deeper room f) (deeper more g) := by
  cases room with
  | zero => exact fun s => .inl rfl
  | succ room =>
      cases more with
      | zero => cases le
      | succ more => exact next room more (Nat.le_of_succ_le_succ le)

theorem check_room {room more : Nat} (le : room ≤ more) (needed : Nat) :
    Keeps (checkRoom room needed : Reading Unit) (checkRoom more needed) := by
  intro s
  by_cases short : room < needed
  · exact .inl (by rw [checkRoom, if_pos short]; rfl)
  · rw [checkRoom, if_neg short, checkRoom,
      if_neg fun short' => short (Nat.lt_of_le_of_lt le short')]
    exact .refl _

theorem ite {c : Prop} [Decidable c] {p q : Reading α} (yes : Keeps m n) (no : Keeps p q) :
    Keeps (if c then m else p) (if c then n else q) := by
  split
  · exact yes
  · exact no

end Keeps

theorem alternatives_step {fuel : Nat} {room more : Nat} (le : room ≤ more)
    (inner : ∀ room more, room ≤ more → ∀ verbose first read,
      Keeps (sequence fuel room verbose first read) (sequence fuel more verbose first read))
    (ih : ∀ room more, room ≤ more → ∀ verbose outermost options,
      Keeps (alternatives fuel room verbose outermost options)
        (alternatives fuel more verbose outermost options))
    (verbose outermost : Bool) (options : List (List Item)) :
    Keeps (alternatives (fuel + 1) room verbose outermost options)
      (alternatives (fuel + 1) more verbose outermost options) := by
  rw [alternatives, alternatives]
  refine .bind (.deeper le fun room more le => inner room more le _ _ _) fun items => ?_
  refine .after _ fun barred => .ite ?_ (.refl _)
  exact .after _ fun s => ih room more le _ _ _

theorem sequence_step {fuel : Nat} {room more : Nat} (le : room ≤ more)
    (inner : ∀ room more, room ≤ more → ∀ verbose outermost options,
      Keeps (alternatives fuel room verbose outermost options)
        (alternatives fuel more verbose outermost options))
    (ih : ∀ room more, room ≤ more → ∀ verbose first read,
      Keeps (sequence fuel room verbose first read) (sequence fuel more verbose first read))
    (verbose first : Bool) (read : List Item) :
    Keeps (sequence (fuel + 1) room verbose first read)
      (sequence (fuel + 1) more verbose first read) := by
  have onward : ∀ verbose read, Keeps (sequence fuel room verbose first read)
      (sequence fuel more verbose first read) := fun verbose read => ih room more le verbose first read
  have group : ∀ verbose, Keeps (deeper room fun room => alternatives fuel room verbose false [])
      (deeper more fun room => alternatives fuel room verbose false []) :=
    fun verbose => .deeper le fun room more le => inner room more le verbose false []
  have branch : Keeps (deeper room fun room => sequence fuel room verbose false [])
      (deeper more fun room => sequence fuel room verbose false []) :=
    .deeper le fun room more le => ih room more le verbose false []
  rw [sequence, sequence]
  refine .after _ fun next => ?_
  split
  · exact .refl _
  · exact .refl _
  · exact .refl _
  refine .after _ fun s => .after _ fun _ => ?_
  split
  · exact .refl _
  · exact .after _ fun item => onward _ _
  refine .ite (onward _ _) <| .ite (.after _ fun _ => .after _ fun _ => onward _ _) <|
    .ite (.after _ fun _ => onward _ _) <| .ite (.after _ fun _ => onward _ _) <|
    .ite (.after _ fun _ => onward _ _) <| .ite (.after _ fun _ => onward _ _) <|
    .ite (.after _ fun counts => ?_) <| .ite (onward _ _) <| .ite (onward _ _) <|
    .ite (onward _ _) <| .ite (.after _ fun opened => ?_) (onward _ _)
  · cases counts with
    | none => exact onward _ _
    | some counts => exact .after _ fun _ => onward _ _
  cases opened with
  | done item =>
      cases item with
      | none => exact onward _ _
      | some item => exact onward _ _
  | wholeFlags =>
      exact .ite (.after _ fun _ => .after _ fun _ => .after _ fun _ => onward _ _)
        (.after _ fun _ => onward _ _)
  | plain name =>
      refine .after _ fun index => .bind (group _) fun body => .after _ fun _ => ?_
      exact .bind (.check_room le _) fun _ => .after _ fun _ => onward _ _
  | uncaptured added removed =>
      exact .bind (group _) fun body => .after _ fun _ => onward _ _
  | atomic => exact .bind (group _) fun body => .after _ fun _ => onward _ _
  | look ahead positive =>
      have contents : ∀ c : Bool, Keeps
          (do
            let body ← deeper room fun room => alternatives fuel room verbose false []
            if c then modify fun s => { s with lookBehind := none }
            closing s.position
            sequence fuel room verbose first (.look ahead positive body :: read))
          (do
            let body ← deeper more fun room => alternatives fuel room verbose false []
            if c then modify fun s => { s with lookBehind := none }
            closing s.position
            sequence fuel more verbose first (.look ahead positive body :: read)) :=
        fun c => .bind (group _) fun body =>
          .ite (.after _ fun _ => .after _ fun _ => onward _ _) (.after _ fun _ => onward _ _)
      exact .after _ fun _ => .ite (.after _ fun _ => contents _) (contents _)
  | condition =>
      refine .after _ fun index => .after _ fun _ => .bind branch fun present => ?_
      refine .after _ fun barred => ?_
      have rest : ∀ absent, Keeps
          (do
            let next ← peek
            if absent.isSome && next == some (.plain '|') then
              refuse "conditional backref with more than two branches" 0
            closing s.position
            sequence fuel room verbose first (.conditional index present absent :: read))
          (do
            let next ← peek
            if absent.isSome && next == some (.plain '|') then
              refuse "conditional backref with more than two branches" 0
            closing s.position
            sequence fuel more verbose first (.conditional index present absent :: read)) :=
        fun absent => .after _ fun next =>
          .ite (.after _ fun _ => .after _ fun _ => onward _ _) (.after _ fun _ => onward _ _)
      exact .ite (.bind (branch.map _) rest) (.after _ rest)

/-- The grammar is read the same with more room, by induction on the fuel of both readers at once. -/
theorem read_keeps (fuel : Nat) :
    (∀ room more, room ≤ more → ∀ verbose outermost options,
      Keeps (alternatives fuel room verbose outermost options)
        (alternatives fuel more verbose outermost options)) ∧
    ∀ room more, room ≤ more → ∀ verbose first read,
      Keeps (sequence fuel room verbose first read) (sequence fuel more verbose first read) := by
  induction fuel with
  | zero => exact ⟨fun _ _ _ _ _ _ => .refl _, fun _ _ _ _ _ _ => .refl _⟩
  | succ fuel ih =>
      exact ⟨fun _ _ le => alternatives_step le ih.2 ih.1, fun _ _ le => sequence_step le ih.1 ih.2⟩

theorem whole_keeps {room more : Nat} (le : room ≤ more) : Keeps (whole room) (whole more) := by
  refine .after _ fun _ => .bind (.deeper le fun room more le => ?_) fun items => .refl _
  exact .after _ fun s => (read_keeps _).1 room more le false true []

end Reading

theorem Written.keeps {room more : Nat} (le : room ≤ more) (source : String) :
    Keeps (Written.ofText room source) (Written.ofText more source) := by
  have read : Reading.Keeps (deeper room Reading.whole) (deeper more Reading.whole) :=
    .deeper le fun _ _ le => Reading.whole_keeps le
  exact (read (Progress.start source)).bind fun _ => .refl _

/-! ### Flags -/

theorem width_behind_keeps {room more : Nat} (le : room ≤ more) (body : List Item) :
    Keeps (widthBehind room body) (widthBehind more body) :=
  .bind (.check_room le _) fun _ => .refl _

mutual

theorem Item.resolve_keeps (f : Flags) (looped : Bool) (after : Option CharTest) {room more : Nat}
    (le : room ≤ more) (item : Item) :
    Keeps (Item.resolve ⟨f, looped, after, room⟩ item) (Item.resolve ⟨f, looped, after, more⟩ item) := by
  cases item with
  | repeated greed least greatest body =>
      rw [Item.resolve, Item.resolve]
      refine .bind (.refl _) fun _ => ?_
      refine .bind (.deeper le fun _ _ le => Item.resolve_all_keeps f _ none le body) fun inner => ?_
      simp only
      cases Item.single? f body <;> exact .refl _
  | group index added removed body =>
      cases index with
      | none =>
          rw [Item.resolve, Item.resolve]
          exact .deeper le fun _ _ le => Item.resolve_all_keeps _ _ _ le body
      | some i =>
          rw [Item.resolve, Item.resolve]
          exact .bind (.deeper le fun _ _ le => Item.resolve_all_keeps _ _ _ le body) fun _ => .refl _
  | atomic body =>
      rw [Item.resolve, Item.resolve]
      exact .bind (.deeper le fun _ _ le => Item.resolve_all_keeps _ _ _ le body) fun _ => .refl _
  | look ahead positive body =>
      rw [Item.resolve, Item.resolve]
      have inner : ∀ back : Nat, Keeps
          (do
            let inner ← deeper room fun room => Item.resolveAll ⟨f, looped, none, room⟩ body
            return Node.look looped positive back inner)
          (do
            let inner ← deeper more fun room => Item.resolveAll ⟨f, looped, none, room⟩ body
            return Node.look looped positive back inner) := fun back =>
        .bind (.deeper le fun _ _ le => Item.resolve_all_keeps _ _ _ le body) fun _ => .refl _
      split
      · exact .bind (.refl _) inner
      · exact .bind (width_behind_keeps le body) inner
  | choice options =>
      rw [Item.resolve, Item.resolve]
      exact Item.resolve_choice_keeps _ _ _ le options
  | conditional index present absent =>
      have present_keeps : ∀ after, Keeps
          (deeper room fun room => Item.resolveAll ⟨f, looped, after, room⟩ present)
          (deeper more fun room => Item.resolveAll ⟨f, looped, after, room⟩ present) := fun after =>
        .deeper le fun _ _ le => Item.resolve_all_keeps _ _ _ le present
      rcases absent with _ | _ | ⟨item, rest⟩
      · simp only [Item.resolve]
        exact .bind (present_keeps after) fun _ => .refl _
      · simp only [Item.resolve]
        exact .bind (present_keeps after) fun _ => .refl _
      · rw [Item.resolve, Item.resolve]
        refine .bind (present_keeps none) fun yes =>
          .bind (.deeper le fun _ _ le => ?_) fun _ => .refl _
        exact Item.resolve_all_keeps _ _ _ le (item :: rest)
  | _ => exact .refl _

theorem Item.resolve_all_keeps (f : Flags) (looped : Bool) (after : Option CharTest)
    {room more : Nat} (le : room ≤ more) (items : List Item) :
    Keeps (Item.resolveAll ⟨f, looped, after, room⟩ items)
      (Item.resolveAll ⟨f, looped, after, more⟩ items) := by
  cases items with
  | nil => exact .refl _
  | cons item rest =>
      rw [Item.resolveAll, Item.resolveAll]
      exact .bind (Item.resolve_keeps _ _ _ le item) fun first =>
        .bind (Item.resolve_all_keeps _ _ _ le rest) fun _ => .refl _

theorem Item.resolve_choice_keeps (f : Flags) (looped : Bool) (after : Option CharTest)
    {room more : Nat} (le : room ≤ more) (options : List (List Item)) :
    Keeps (Item.resolveChoice ⟨f, looped, after, room⟩ options)
      (Item.resolveChoice ⟨f, looped, after, more⟩ options) := by
  cases options with
  | nil => exact .refl _
  | cons option rest =>
      rw [Item.resolveChoice, Item.resolveChoice]
      exact .bind (.deeper le fun _ _ le => Item.resolve_all_keeps _ _ _ le option) fun first =>
        .bind (Item.resolve_choice_keeps _ _ _ le rest) fun _ => .refl _

end

theorem resolve_whole_keeps {room more : Nat} (le : room ≤ more) (written : Written) :
    Keeps (resolveWhole room written) (resolveWhole more written) :=
  .deeper le fun _ _ le => .bind (.check_room le _) fun _ =>
    .deeper le fun _ _ le => Item.resolve_all_keeps _ _ _ le written.items

/-- With more room a pattern is compiled the same, unless its calls nested too deep before. -/
theorem compile_keeps {room more : Nat} (le : room ≤ more) (source : String) :
    Keeps (compile room source) (compile more source) :=
  .bind (Written.keeps le source) fun written => .bind (resolve_whole_keeps le written) fun _ =>
    .refl _

/-- Where calls may nest deep enough in two places, a pattern comes to the same in both. -/
theorem compile_agrees {room room' : Nat} {source : String}
    (fits : compile room source ≠ .error (.excess .nesting))
    (fits' : compile room' source ≠ .error (.excess .nesting)) :
    compile room source = compile room' source := by
  rcases Nat.le_total room room' with le | le
  · exact (compile_keeps le source).resolve_left fits
  · exact ((compile_keeps le source).resolve_left fits').symm

/-! ### Groups inside groups -/

/-- A text of so many groups, each inside the one before, with nothing in them. -/
def nested (n : Nat) : String :=
  String.ofList (List.replicate n '(' ++ List.replicate n ')')

theorem nested_filled (n : Nat) : (nested (n + 1)).isEmpty = false := by
  rw [Bool.eq_false_iff, ne_eq, String.isEmpty_iff]
  intro none
  have characters := congrArg String.toList none
  rw [nested, String.toList_ofList] at characters
  cases characters

namespace Reading

/-- The tokens of groups of which so many are still to begin. -/
def openings (n m : Nat) : List Token :=
  List.replicate n (.plain '(') ++ List.replicate m (.plain ')')

theorem of_chars_openings (n m : Nat) :
    Token.ofChars (List.replicate n '(' ++ List.replicate m ')') = openings n m := by
  induction n with
  | zero =>
      induction m with
      | zero => rfl
      | succ m ih =>
          rw [List.replicate_zero, List.nil_append] at ih ⊢
          rw [List.replicate_succ, Token.ofChars, ih, openings, openings]
          · rfl
          · simp
          · simp
  | succ n ih =>
      rw [List.replicate_succ, List.cons_append, Token.ofChars, ih, openings, openings]
      · rfl
      · simp
      · simp

theorem openings_head (n m : Nat) :
    openings n m = [] ∨
      ∃ rest, openings n m = .plain '(' :: rest ∨ openings n m = .plain ')' :: rest := by
  cases n with
  | zero =>
      cases m with
      | zero => exact .inl rfl
      | succ m => exact .inr ⟨_, .inr rfl⟩
  | succ n => exact .inr ⟨_, .inl rfl⟩

theorem take_openings {s : Progress} {n m : Nat} (tokens : s.tokens = openings (n + 1) m) :
    take s = .ok (some (.plain '('),
      { s with tokens := openings n m, position := s.position + 1 }) := by
  have tokens : s.tokens = .plain '(' :: openings n m := tokens
  simp only [take, checkNext, bind, StateT.bind, Except.bind, get, getThe, MonadStateOf.get,
    StateT.get, pure, StateT.pure, Except.pure, tokens, set, StateT.set]
  rcases openings_head n m with none | ⟨rest, opened | closed⟩
  · simp only [none]; rfl
  · simp only [opened]; rfl
  · simp only [closed]; rfl

theorem accept_openings {s : Progress} {n m : Nat} (tokens : s.tokens = openings n m) :
    accept '?' s = .ok (false, s) := by
  simp only [accept, peek, bind, StateT.bind, Except.bind, get, getThe, MonadStateOf.get, StateT.get,
    pure, StateT.pure, Except.pure, tokens]
  rcases openings_head n m with none | ⟨rest, opened | closed⟩
  · simp only [none]; rfl
  · simp only [opened]; rfl
  · simp only [closed]; rfl

theorem opening_openings {s : Progress} {n m start : Nat} (tokens : s.tokens = openings n m) :
    opening start s = .ok (.plain none, s) := by
  have refused := accept_openings tokens
  rw [opening]
  simp only [bind, StateT.bind, Except.bind, refused]
  rfl

theorem bind_of_ok {α β : Type} {m : Reading α} {f : α → Reading β} {a : α} {s s' : Progress}
    (first : m s = .ok (a, s')) : (m >>= f) s = f a s' := by
  simp only [bind, StateT.bind, first, Except.bind]

theorem bind_get {β : Type} (f : Progress → Reading β) (s : Progress) : (get >>= f) s = f s s := rfl

theorem bind_of_error {α β : Type} {m : Reading α} {f : α → Reading β} {fault : Fault}
    {s : Progress} (refused : m s = .error fault) : (m >>= f) s = .error fault := by
  simp only [bind, StateT.bind, refused, Except.bind]

/-- A group is begun, and its contents are read one call deeper. -/
theorem sequence_openings {s : Progress} {n m fuel room : Nat} {verbose first : Bool}
    {read : List Item} (tokens : s.tokens = openings (n + 1) m)
    (refused : ∀ s : Progress, s.tokens = openings n m →
      deeper room (fun room => alternatives fuel room verbose false []) s =
        .error (.excess .nesting)) :
    sequence (fuel + 1) room verbose first read s = .error (.excess .nesting) := by
  have peeked : peek s = .ok (some (.plain '('), s) := by
    rw [peek, bind_get, tokens]
    rfl
  have plain : (verbose && isSkipped '(') = false := by cases verbose <;> rfl
  rw [sequence, bind_of_ok peeked]
  show ((get : Reading Progress) >>= _) s = _
  rw [bind_get, bind_of_ok (take_openings tokens)]
  simp only [plain, Bool.and_false, Bool.false_eq_true, if_false, Char.reduceBEq, if_true]
  rw [bind_of_ok (opening_openings rfl)]
  refine (bind_of_ok (rfl : openGroup none _ = .ok (_, _))).trans ?_
  exact bind_of_error (refused _ rfl)

/-- Groups inside groups deeper than calls may nest are refused. -/
theorem sequence_refuses (n m : Nat) {fuel room : Nat} (short : room < 2 * n)
    (enough : 2 * n ≤ fuel) (verbose first : Bool) (read : List Item) (s : Progress)
    (tokens : s.tokens = openings n m) :
    sequence fuel room verbose first read s = .error (.excess .nesting) := by
  induction n generalizing fuel room first read s with
  | zero => cases short
  | succ n ih =>
      obtain ⟨fuel, rfl⟩ : ∃ fuel', fuel = fuel' + 2 := ⟨fuel - 2, by omega⟩
      refine sequence_openings tokens fun s tokens => ?_
      match room with
      | 0 => rfl
      | 1 => rfl
      | room + 2 => exact bind_of_error (ih (by omega) (by omega) _ _ _ tokens)

end Reading

/-- However deep calls may nest, there are texts whose groups are inside groups deeper than that. -/
theorem compile_nested {room n : Nat} (short : room < 2 * n + 3) :
    compile room (nested n) = .error (.excess .nesting) := by
  -- It is enough to look at the most room that is too little.
  suffices refused : compile (2 * n + 2) (nested n) = .error (.excess .nesting) by
    rcases compile_keeps (Nat.le_of_lt_succ short) (nested n) with same | same
    · exact same
    · rw [same, refused]
  have tokens : (Progress.start (nested n)).tokens = Reading.openings n n := by
    rw [Progress.start, nested, String.toList_ofList, Reading.of_chars_openings]
  have checked : Reading.checkNext (Progress.start (nested n)) =
      .ok ((), Progress.start (nested n)) := by
    rw [Reading.checkNext, Reading.bind_get, tokens]
    rcases Reading.openings_head n n with none | ⟨rest, opened | closed⟩
    · rw [none]; rfl
    · rw [opened]; rfl
    · rw [closed]; rfl
  have read : Reading.whole (2 * n + 1) (Progress.start (nested n)) =
      .error (.excess .nesting) := by
    rw [Reading.whole, Reading.bind_of_ok checked]
    refine Reading.bind_of_error ?_
    show ((get : Reading Progress) >>= fun s =>
      Reading.alternatives (3 * s.tokens.length + 3) (2 * n) false true []) _ = _
    rw [Reading.bind_get, Reading.alternatives]
    refine Reading.bind_of_error ?_
    cases n with
    | zero => rfl
    | succ n =>
        have bound : 2 * n + 1 < 2 * (n + 1) := by omega
        refine Reading.sequence_refuses (n + 1) (n + 1) bound ?_ _ _ _ _ tokens
        rw [tokens]
        simp only [Reading.openings, List.length_append, List.length_replicate]
        omega
  rw [compile, Written.ofText, deeper]
  simp only [bind, Except.bind, StateT.run, read]

end PlaybookLint.Pattern
