import PlaybookLint.Failure.Phrase
import PlaybookLint.Proofs.Text

/-!
Phrases told by where they stand. A phrase is found in a text exactly if it stands there, and what is
taken from the text is taken at the first place of all; a text between two phrases is as long as its
line allows. What is found in a text is found in every text around it as well.
-/

namespace PlaybookLint

namespace Failure

variable {α : Type}

/-! ### The first place -/

/-- What a text tells at the first place where it tells anything. -/
def First (tells : List Char → α → Prop) (text : List Char) (a : α) : Prop :=
  ∃ before rest, text = before ++ rest ∧ tells rest a ∧
    ∀ earlier later b, text = earlier ++ later → tells later b → before.length ≤ earlier.length

theorem first_of_here {tells : List Char → α → Prop} {text : List Char} {a : α}
    (told : tells text a) : First tells text a :=
  ⟨[], text, rfl, told, fun _ _ _ _ _ => Nat.zero_le _⟩

/-- Where nothing is told at the very beginning, the first place lies behind it. -/
theorem first_cons_iff {tells : List Char → α → Prop} {c : Char} {rest : List Char}
    (silent : ∀ b, ¬tells (c :: rest) b) (a : α) :
    First tells (c :: rest) a ↔ First tells rest a := by
  constructor
  · rintro ⟨before, later, cut, told, first⟩
    cases before with
    | nil =>
        rw [List.nil_append] at cut
        rw [← cut] at told
        exact absurd told (silent a)
    | cons d before =>
        obtain ⟨rfl, rfl⟩ := List.cons.inj cut
        refine ⟨before, later, rfl, told, ?_⟩
        intro earlier later' b cut' told'
        have bound := first (c :: earlier) later' b (congrArg (c :: ·) cut') told'
        exact Nat.le_of_succ_le_succ bound
  · rintro ⟨before, later, rfl, told, first⟩
    refine ⟨c :: before, later, rfl, told, ?_⟩
    intro earlier later' b cut' told'
    cases earlier with
    | nil =>
        rw [List.nil_append] at cut'
        rw [← cut'] at told'
        exact absurd told' (silent b)
    | cons d earlier => exact Nat.succ_le_succ (first earlier later' b (List.cons.inj cut').2 told')

theorem first_place_eq_some_iff {here : List Char → Option α} {tells : List Char → α → Prop}
    (found : ∀ text a, here text = some a ↔ tells text a) (text : List Char) (a : α) :
    firstPlace here text = some a ↔ First tells text a := by
  induction text with
  | nil =>
      constructor
      · intro told
        exact first_of_here ((found [] a).mp told)
      · rintro ⟨before, rest, cut, told, _⟩
        rw [(List.append_eq_nil_iff.mp cut.symm).2] at told
        exact (found [] a).mpr told
  | cons c rest ih =>
      rw [firstPlace]
      cases there : here (c :: rest) with
      | some b =>
          have told := (found _ b).mp there
          constructor
          · intro same
            cases same
            exact first_of_here told
          · rintro ⟨before, later, cut, told', first⟩
            have bound := first [] (c :: rest) b rfl told
            have none : before = [] := List.length_eq_zero_iff.mp (Nat.le_zero.mp bound)
            rw [none, List.nil_append] at cut
            rw [← cut] at told'
            rw [← (found _ a).mpr told', there]
      | none =>
          have silent : ∀ b, ¬tells (c :: rest) b := by
            intro b told
            rw [(found _ b).mpr told] at there
            cases there
          simp only
          rw [ih, first_cons_iff silent]

theorem first_place_is_some_iff (here : List Char → Option α) (text : List Char) :
    (firstPlace here text).isSome = true ↔
      ∃ before rest, text = before ++ rest ∧ (here rest).isSome = true := by
  induction text with
  | nil =>
      constructor
      · exact fun found => ⟨[], [], rfl, found⟩
      · rintro ⟨before, rest, cut, found⟩
        rw [(List.append_eq_nil_iff.mp cut.symm).2] at found
        exact found
  | cons c rest ih =>
      rw [firstPlace]
      cases there : here (c :: rest) with
      | some b =>
          refine iff_of_true rfl ⟨[], c :: rest, rfl, ?_⟩
          rw [there]
          rfl
      | none =>
          simp only
          rw [ih]
          constructor
          · rintro ⟨before, later, rfl, found⟩
            exact ⟨c :: before, later, rfl, found⟩
          · rintro ⟨before, later, cut, found⟩
            cases before with
            | nil =>
                rw [List.nil_append] at cut
                rw [← cut, there] at found
                cases found
            | cons d before => exact ⟨before, later, (List.cons.inj cut).2, found⟩

/-- A text that tells nothing anywhere. -/
def Silent (tells : List Char → α → Prop) (text : List Char) : Prop :=
  ∀ before rest a, text = before ++ rest → ¬tells rest a

theorem first_place_eq_none_iff {here : List Char → Option α} {tells : List Char → α → Prop}
    (found : ∀ text a, here text = some a ↔ tells text a) (text : List Char) :
    firstPlace here text = none ↔ Silent tells text := by
  rw [← Option.not_isSome_iff_eq_none, first_place_is_some_iff]
  constructor
  · intro nowhere before rest a cut told
    refine nowhere ⟨before, rest, cut, ?_⟩
    rw [(found rest a).mpr told]
    rfl
  · rintro silent ⟨before, rest, cut, present⟩
    obtain ⟨a, there⟩ := Option.isSome_iff_exists.mp present
    exact silent before rest a cut ((found rest a).mp there)

/-- Nothing is told that begins in `front`, where `rest` stands behind it. -/
def NoneBegins (tells : List Char → α → Prop) (front rest : List Char) : Prop :=
  ∀ earlier later a, front = earlier ++ later → later ≠ [] → ¬tells (later ++ rest) a

theorem none_begins_of_nowhere {here : List Char → Option α} {tells : List Char → α → Prop}
    (found : ∀ text a, here text = some a ↔ tells text a) {front rest : List Char}
    (nowhere : ∀ i < front.length, here ((front ++ rest).drop i) = none) :
    NoneBegins tells front rest := by
  rintro earlier later a rfl filled told
  have inside : earlier.length < (earlier ++ later).length := by
    rw [List.length_append]
    exact Nat.lt_add_of_pos_right (List.length_pos_iff.mpr filled)
  have absent := nowhere earlier.length inside
  rw [List.append_assoc, List.drop_left, (found _ a).mpr told] at absent
  cases absent

theorem first_of_none_begins {tells : List Char → α → Prop} {front rest : List Char} {a : α}
    (none : NoneBegins tells front rest) (told : tells rest a) : First tells (front ++ rest) a := by
  refine ⟨front, rest, rfl, told, ?_⟩
  intro earlier later b cut told'
  rw [← Nat.not_lt]
  intro less
  rcases List.append_eq_append_iff.mp cut with ⟨more, longer, _⟩ | ⟨more, front_cut, same⟩
  · rw [longer, List.length_append] at less
    omega
  · rw [same] at told'
    refine none earlier more b front_cut ?_ told'
    rintro rfl
    rw [front_cut, List.append_nil] at less
    exact Nat.lt_irrefl _ less

/-! ### Between two phrases -/

theorem after_eq_some_iff (phrase text rest : List Char) :
    after? phrase text = some rest ↔ text = phrase ++ rest := by
  rw [after?]
  constructor
  · intro read
    split at read
    · rename_i begins
      cases read
      exact (List.prefix_iff_eq_append.mp (List.isPrefixOf_iff_prefix.mp begins)).symm
    · cases read
  · rintro rfl
    rw [if_pos (List.isPrefixOf_iff_prefix.mpr (List.prefix_append phrase rest)),
      List.drop_left]

/-- A beginning of the text within its first line, behind which `stop` holds, and the longest that
there is. -/
structure UpTo (stop : List Char → Bool) (text taken : List Char) : Prop where
  single : '\n' ∉ taken
  stops : ∃ more, text = taken ++ more ∧ stop more = true
  longest : ∀ other more, '\n' ∉ other → text = other ++ more → stop more = true →
    other.length ≤ taken.length

theorem UpTo.unique {stop : List Char → Bool} {text taken taken' : List Char}
    (upTo : UpTo stop text taken) (upTo' : UpTo stop text taken') : taken = taken' := by
  obtain ⟨single, ⟨more, cut, holds⟩, longest⟩ := upTo
  obtain ⟨single', ⟨more', cut', holds'⟩, longest'⟩ := upTo'
  have lengths : taken.length = taken'.length :=
    Nat.le_antisymm (longest' taken more single cut holds) (longest taken' more' single' cut' holds')
  exact (List.append_inj (cut.symm.trans cut') lengths).1

theorem stops_nowhere {stop : List Char → Bool} {text : List Char}
    (none : upToLast stop text = none) (taken more : List Char) (single : '\n' ∉ taken)
    (cut : text = taken ++ more) : stop more = false := by
  induction text generalizing taken with
  | nil =>
      rw [(List.append_eq_nil_iff.mp cut.symm).2]
      simpa [upToLast] using none
  | cons c rest ih =>
      simp only [upToLast] at none
      split at none
      · cases none
      · rename_i later
        split at none
        · cases none
        · rename_i stays
          cases taken with
          | nil =>
              rw [← List.nil_append more, ← cut, ← Bool.not_eq_true]
              exact stays
          | cons d taken =>
              obtain ⟨rfl, cut'⟩ := List.cons.inj cut
              rw [List.mem_cons, not_or] at single
              have inside : (c == '\n') = false := beq_eq_false_iff_ne.mpr (Ne.symm single.1)
              rw [inside] at later
              exact ih later taken single.2 cut'

theorem UpTo.cons {stop : List Char → Bool} {c : Char} {rest taken : List Char} (inside : c ≠ '\n')
    (upTo : UpTo stop rest taken) : UpTo stop (c :: rest) (c :: taken) := by
  obtain ⟨single, ⟨more, rfl, holds⟩, longest⟩ := upTo
  refine ⟨?_, ⟨more, rfl, holds⟩, ?_⟩
  · rw [List.mem_cons, not_or]
    exact ⟨inside.symm, single⟩
  · intro other more' single' cut holds'
    cases other with
    | nil => exact Nat.zero_le _
    | cons d other =>
        rw [List.mem_cons, not_or] at single'
        exact Nat.succ_le_succ (longest other more' single'.2 (List.cons.inj cut).2 holds')

theorem up_to_of_last {stop : List Char → Bool} {text taken : List Char}
    (read : upToLast stop text = some taken) : UpTo stop text taken := by
  induction text generalizing taken with
  | nil =>
      rw [upToLast] at read
      split at read
      · rename_i holds
        cases read
        refine ⟨List.not_mem_nil, ⟨[], rfl, holds⟩, ?_⟩
        intro other more _ cut _
        exact Nat.le_of_eq (congrArg List.length (List.append_eq_nil_iff.mp cut.symm).1)
      · cases read
  | cons c rest ih =>
      simp only [upToLast] at read
      split at read
      · rename_i longer later
        cases read
        split at later
        · cases later
        · rename_i inside
          exact (ih later).cons fun same => inside (beq_iff_eq.mpr same)
      · rename_i later
        split at read
        · rename_i holds
          cases read
          refine ⟨List.not_mem_nil, ⟨c :: rest, rfl, holds⟩, ?_⟩
          intro other more single cut holds'
          cases other with
          | nil => exact Nat.le_refl _
          | cons d other =>
              -- A longer beginning would stop in the rest of the line.
              obtain ⟨rfl, cut'⟩ := List.cons.inj cut
              rw [List.mem_cons, not_or] at single
              have inside : (c == '\n') = false := beq_eq_false_iff_ne.mpr (Ne.symm single.1)
              rw [inside] at later
              rw [stops_nowhere later other more single.2 cut'] at holds'
              cases holds'
        · cases read

theorem up_to_last_eq_some_iff (stop : List Char → Bool) (text taken : List Char) :
    upToLast stop text = some taken ↔ UpTo stop text taken := by
  constructor
  · exact up_to_of_last
  · intro upTo
    cases read : upToLast stop text with
    | none =>
        obtain ⟨single, ⟨more, cut, holds⟩, _⟩ := upTo
        rw [stops_nowhere read taken more single cut] at holds
        cases holds
    | some taken' => rw [upTo.unique (up_to_of_last read)]

/-- What stands in front of a character that does not occur in a beginning of the text reaches beyond
that beginning. -/
theorem beyond_of_not_mem {front rest other more : List Char} {c : Char} (absent : c ∉ front)
    (same : front ++ rest = other ++ c :: more) :
    ∃ taken, other = front ++ taken ∧ rest = taken ++ c :: more := by
  rcases List.append_eq_append_iff.mp same with ⟨taken, longer, cut⟩ | ⟨taken, shorter, cut⟩
  · exact ⟨taken, longer, cut⟩
  · cases taken with
    | nil => exact ⟨[], by rw [shorter, List.append_nil, List.append_nil], cut.symm⟩
    | cons d taken =>
        obtain ⟨rfl, _⟩ := List.cons.inj cut
        rw [shorter] at absent
        exact absurd (List.mem_append_right other List.mem_cons_self) absent

/-- The text begins with an opening phrase, and what stands between it and the last closing phrase of
the line is taken. -/
structure Encloses (opening closing : String) (text taken : List Char) : Prop where
  single : '\n' ∉ taken
  written : ∃ more, text = opening.toList ++ (taken ++ (closing.toList ++ more))
  longest : ∀ other more, '\n' ∉ other →
    text = opening.toList ++ (other ++ (closing.toList ++ more)) → other.length ≤ taken.length

theorem between_here_eq_some_iff (opening closing : String) (text taken : List Char) :
    betweenHere opening closing text = some taken ↔ Encloses opening closing text taken := by
  have closes_iff (more : List Char) : closing.toList.isPrefixOf more = true ↔
      ∃ rest, more = closing.toList ++ rest := by
    rw [List.isPrefixOf_iff_prefix]
    exact ⟨fun ⟨rest, cut⟩ => ⟨rest, cut.symm⟩, fun ⟨rest, cut⟩ => ⟨rest, cut.symm⟩⟩
  rw [betweenHere, Option.bind_eq_some_iff]
  simp only [after_eq_some_iff, up_to_last_eq_some_iff]
  constructor
  · rintro ⟨rest, rfl, single, ⟨more, rfl, closes⟩, longest⟩
    obtain ⟨more, rfl⟩ := (closes_iff more).mp closes
    refine ⟨single, ⟨more, rfl⟩, ?_⟩
    intro other more' single' cut
    exact longest other _ single' (List.append_cancel_left cut) ((closes_iff _).mpr ⟨more', rfl⟩)
  · rintro ⟨single, ⟨more, rfl⟩, longest⟩
    refine ⟨_, rfl, single, ⟨_, rfl, (closes_iff _).mpr ⟨more, rfl⟩⟩, ?_⟩
    intro other more' single' cut closes
    obtain ⟨more', rfl⟩ := (closes_iff more').mp closes
    exact longest other more' single' (congrArg (opening.toList ++ ·) cut)

theorem between_eq_some_iff (opening closing : String) (text taken : List Char) :
    between opening closing text = some taken ↔ First (Encloses opening closing) text taken :=
  first_place_eq_some_iff (between_here_eq_some_iff opening closing) text taken

theorem between_here_is_some_iff (opening closing : String) (text : List Char) :
    (betweenHere opening closing text).isSome = true ↔
      ∃ taken more, '\n' ∉ taken ∧
        text = opening.toList ++ (taken ++ (closing.toList ++ more)) := by
  constructor
  · intro present
    obtain ⟨taken, captured⟩ := Option.isSome_iff_exists.mp present
    obtain ⟨single, ⟨more, written⟩, _⟩ :=
      (between_here_eq_some_iff opening closing text taken).mp captured
    exact ⟨taken, more, single, written⟩
  · rintro ⟨taken, more, single, rfl⟩
    have begins := (after_eq_some_iff opening.toList _ _).mpr
      (rfl : opening.toList ++ (taken ++ (closing.toList ++ more)) = _)
    rw [betweenHere, begins, Option.bind_some, Option.isSome_iff_ne_none]
    intro none
    have stays := stops_nowhere none taken _ single rfl
    rw [List.isPrefixOf_iff_prefix.mpr (List.prefix_append closing.toList more)] at stays
    cases stays

/-! ### A line and a column in words -/

/-- Several characters of a kind, at least one, and what follows them. -/
def several? (kind : Char → Bool) (s : List Char) : Option (List Char × List Char) :=
  if (s.takeWhile kind).isEmpty then none else some (s.takeWhile kind, s.dropWhile kind)

theorem several_eq_some_iff (kind : Char → Bool) (text run rest : List Char) :
    several? kind text = some (run, rest) ↔
      run ≠ [] ∧ (∀ c ∈ run, kind c = true) ∧ text = run ++ rest ∧
        ∀ c, rest.head? = some c → kind c = false := by
  rw [several?]
  constructor
  · intro read
    split at read
    · cases read
    · rename_i filled
      cases read
      refine ⟨fun none => filled (List.isEmpty_iff.mpr none), Text.all_of_take_while text,
        List.takeWhile_append_dropWhile.symm, ?_⟩
      intro c first
      have fails := List.head?_dropWhile_not kind text
      rw [first] at fails
      simpa using fails
  · rintro ⟨filled, all, rfl, ends⟩
    have stops : rest.takeWhile kind = [] ∧ rest.dropWhile kind = rest := by
      cases rest with
      | nil => exact ⟨rfl, rfl⟩
      | cons c rest =>
          have fails := ends c rfl
          simp only [List.takeWhile_cons, List.dropWhile_cons, fails, Bool.false_eq_true, if_false,
            and_self]
    have full : run.isEmpty = false := List.isEmpty_eq_false_iff.mpr filled
    rw [List.takeWhile_append_of_pos all, List.dropWhile_append_of_pos all, stops.1, stops.2,
      List.append_nil, full]
    rfl

theorem digits_eq : digits? = several? Text.isDecimalDigit := rfl

theorem digits_eq_some_iff (text digits rest : List Char) :
    digits? text = some (digits, rest) ↔
      digits ≠ [] ∧ (∀ c ∈ digits, Text.isDecimalDigit c = true) ∧ text = digits ++ rest ∧
        ∀ c, rest.head? = some c → Text.isDecimalDigit c = false :=
  several_eq_some_iff Text.isDecimalDigit text digits rest

theorem after_blank_eq_some_iff (text rest : List Char) :
    afterBlank? text = some rest ↔ ∃ blank, Text.isBlank blank = true ∧ text = blank :: rest := by
  cases text with
  | nil => simp [afterBlank?]
  | cons c text =>
      rw [afterBlank?, Option.ite_none_right_eq_some, Option.some_inj]
      constructor
      · rintro ⟨isBlank, rfl⟩
        exact ⟨c, isBlank, rfl⟩
      · rintro ⟨blank, isBlank, same⟩
        cases same
        exact ⟨isBlank, rfl⟩

/-- The text begins with a line and a column in words; the digits of the column are all that stand
there. -/
structure Places (text : List Char) (place : List Char × List Char) : Prop where
  numbered : place.1 ≠ [] ∧ place.2 ≠ []
  decimal : (∀ c ∈ place.1, Text.isDecimalDigit c = true) ∧
    ∀ c ∈ place.2, Text.isDecimalDigit c = true
  written : ∃ before between after rest, Text.isBlank before = true ∧ Text.isBlank between = true ∧
    Text.isBlank after = true ∧ (∀ c, rest.head? = some c → Text.isDecimalDigit c = false) ∧
    text = "line".toList ++ before :: (place.1 ++ (",".toList ++ between :: ("column".toList ++
      after :: (place.2 ++ rest))))

theorem line_column_here_eq_some_iff (text : List Char) (place : List Char × List Char) :
    lineColumnHere text = some place ↔ Places text place := by
  obtain ⟨line, column⟩ := place
  simp only [lineColumnHere, Option.bind_eq_bind, Option.bind_eq_some_iff, after_eq_some_iff,
    after_blank_eq_some_iff, Prod.exists, digits_eq_some_iff]
  constructor
  · rintro ⟨_, rfl, _, ⟨before, blank, rfl⟩, _, _, ⟨filled, decimal, rfl, _⟩, _, rfl, _,
      ⟨between, blank', rfl⟩, _, rfl, _, ⟨after, blank'', rfl⟩, _, rest,
      ⟨filled', decimal', rfl, ends⟩, made⟩
    cases made
    exact ⟨⟨filled, filled'⟩, ⟨decimal, decimal'⟩, before, between, after, rest, blank, blank',
      blank'', ends, rfl⟩
  · rintro ⟨⟨filled, filled'⟩, ⟨decimal, decimal'⟩, before, between, after, rest, blank, blank',
      blank'', ends, rfl⟩
    have comma : ∀ c, (",".toList ++ between :: ("column".toList ++
        after :: (column ++ rest))).head? = some c → Text.isDecimalDigit c = false := by
      intro c first
      cases first
      decide +kernel
    exact ⟨_, rfl, _, ⟨before, blank, rfl⟩, line, _, ⟨filled, decimal, rfl, comma⟩, _, rfl, _,
      ⟨between, blank', rfl⟩, _, rfl, _, ⟨after, blank'', rfl⟩, column, rest,
      ⟨filled', decimal', rfl, ends⟩, rfl⟩

theorem line_column_eq_some_iff (text : List Char) (place : List Char × List Char) :
    lineColumn? text = some place ↔ First Places text place :=
  first_place_eq_some_iff line_column_here_eq_some_iff text place

end Failure

end PlaybookLint
