import PlaybookLint.Text.Blank
import PlaybookLint.Text.DecimalDigit
import PlaybookLint.Text.Lines
import PlaybookLint.Text.Occurrence

/-!
Characters, numerals and lines. No decimal digit of any script is blank; the usual numeral of a
number is read as that number; and a text without a line feed is a single line.
-/

namespace PlaybookLint.Text

theorem occurs_iff (part s : List Char) : occurs part s = true ↔ part <:+: s := by
  induction s with
  | nil => simp [occurs]
  | cons c rest ih =>
      rw [occurs, Bool.or_eq_true, ih, List.isPrefixOf_iff_prefix, List.infix_cons_iff]

/-! ### Runs of characters -/

theorem all_of_take_while {test : Char → Bool} (s : List Char) :
    ∀ c ∈ s.takeWhile test, test c = true :=
  List.all_eq_true.mp List.all_takeWhile

/-- A run of characters that pass a test ends before the first that fails it. -/
theorem take_while_run {test : Char → Bool} {run : List Char} (passes : ∀ c ∈ run, test c = true)
    {stop : Char} (fails : test stop = false) (rest : List Char) :
    (run ++ stop :: rest).takeWhile test = run := by
  rw [List.takeWhile_append_of_pos passes, List.takeWhile_cons, fails]
  exact List.append_nil run

theorem drop_while_run {test : Char → Bool} {run : List Char} (passes : ∀ c ∈ run, test c = true)
    {stop : Char} (fails : test stop = false) (rest : List Char) :
    (run ++ stop :: rest).dropWhile test = stop :: rest := by
  rw [List.dropWhile_append_of_pos passes, List.dropWhile_cons, fails]
  rfl

/-- Two runs that end at a character which fails the test are the same run. -/
theorem runs_eq {test : Char → Bool} {run run' rest rest' : List Char} {stop stop' : Char}
    (passes : ∀ c ∈ run, test c = true) (passes' : ∀ c ∈ run', test c = true)
    (fails : test stop = false) (fails' : test stop' = false)
    (same : run ++ stop :: rest = run' ++ stop' :: rest') :
    run = run' ∧ stop = stop' ∧ rest = rest' := by
  have runs : run = run' := by
    rw [← take_while_run passes fails rest, same, take_while_run passes' fails']
  subst runs
  have tails := List.append_cancel_left same
  exact ⟨rfl, (List.cons.inj tails).1, (List.cons.inj tails).2⟩

/-! ### Digits -/

theorem digit_value_cases {c : Char} (digit : isDecimalDigit c = true) :
    ∃ first ∈ digitZeros, ∃ value < 10, c = Char.ofNat (first + value) := by
  rw [isDecimalDigit, digitValue?, Option.isSome_map, List.find?_isSome] at digit
  obtain ⟨first, among, within⟩ := digit
  simp only [Bool.and_eq_true, decide_eq_true_eq] at within
  refine ⟨first, among, c.toNat - first, by omega, ?_⟩
  have whole : first + (c.toNat - first) = c.toNat := by omega
  rw [whole, Char.ofNat_toNat]

/-- No digit is blank. -/
theorem digit_not_blank {c : Char} (digit : isDecimalDigit c = true) : isBlank c = false := by
  have table : ∀ first ∈ digitZeros, ∀ value < 10,
      isBlank (Char.ofNat (first + value)) = false := by decide +kernel
  obtain ⟨first, among, value, small, same⟩ := digit_value_cases digit
  rw [same]
  exact table first among value small

theorem digit_value_digit_char {n : Nat} (small : n < 10) : digitValue? n.digitChar = some n := by
  have table : ∀ n < 10, digitValue? (Nat.digitChar n) = some n := by decide +kernel
  exact table n small

theorem digits_value_append (digits : List Char) (c : Char) :
    digitsValue (digits ++ [c]) = 10 * digitsValue digits + (digitValue? c).getD 0 := by
  simp only [digitsValue, List.foldl_append, List.foldl_cons, List.foldl_nil]

/-- The usual numeral of a number is read as the number. -/
theorem digits_value_to_digits (n : Nat) : digitsValue (Nat.toDigits 10 n) = n := by
  induction n using Nat.strongRecOn with
  | ind n ih =>
      by_cases small : n < 10
      · rw [Nat.toDigits_of_lt_base small]
        simp only [digitsValue, List.foldl_cons, List.foldl_nil, digit_value_digit_char small,
          Option.getD_some]
        omega
      · have large : 10 ≤ n := Nat.le_of_not_lt small
        have last : n % 10 < 10 := Nat.mod_lt n (by decide)
        rw [Nat.toDigits_of_base_le (by decide) large, digits_value_append, ih (n / 10) (by omega),
          digit_value_digit_char last, Option.getD_some]
        omega

theorem to_digits_decimal (n : Nat) : ∀ c ∈ Nat.toDigits 10 n, isDecimalDigit c = true := by
  induction n using Nat.strongRecOn with
  | ind n ih =>
      intro c among
      by_cases small : n < 10
      · rw [Nat.toDigits_of_lt_base small, List.mem_singleton] at among
        rw [among, isDecimalDigit, digit_value_digit_char small]
        rfl
      · have large : 10 ≤ n := Nat.le_of_not_lt small
        have last : n % 10 < 10 := Nat.mod_lt n (by decide)
        rw [Nat.toDigits_of_base_le (by decide) large, List.mem_append, List.mem_singleton] at among
        rcases among with before | same
        · exact ih (n / 10) (by omega) c before
        · rw [same, isDecimalDigit, digit_value_digit_char last]
          rfl

theorem feed_not_in_numeral (n : Nat) : '\n' ∉ Nat.toDigits 10 n := by
  intro among
  have notBlank := digit_not_blank (to_digits_decimal n _ among)
  revert notBlank
  decide

theorem read_number_error {digits : List Char} (long : digitLimit < digits.length) :
    readNumber digits = .error ⟨digits.length⟩ := by
  simp only [readNumber, if_pos long]

theorem read_number_ok {digits : List Char} (short : ¬digitLimit < digits.length) :
    readNumber digits = .ok (digitsValue digits) := by
  simp only [readNumber, if_neg short]

/-! ### Lines -/

/-- A text without a line feed is one line. -/
theorem split_lines_single {line : List Char} (single : '\n' ∉ line) : splitLines line = [line] := by
  induction line with
  | nil => rfl
  | cons c rest ih =>
      rw [List.mem_cons, not_or] at single
      have later := ih single.2
      have here : splitLines (c :: rest) = prependToFirst c (splitLines rest) := by
        rw [splitLines]
        · intro follows
          exact single.1 follows.symm
        · intro next _ after
          rw [after] at single
          exact single.2 List.mem_cons_self
      rw [here, later]
      rfl

end PlaybookLint.Text
