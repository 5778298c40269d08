import Mathlib.Data.List.TakeWhile
import PlaybookLint.CommandLine.Task
import PlaybookLint.Proofs.Outcome

/-!
The words of a command line as a grammar. A word gives options by a long name, with its value behind an
equals sign or in the next word, or by letters that stand together. Other words are arguments, and so
are all words behind two hyphens. `Conventional` is all that is assumed of the package that takes
command lines apart. So every value and every argument can be written, hyphens or not.
-/

namespace PlaybookLint.CommandLine

variable {forms : List OptionForm}

/-! ### The grammar -/

/-- Letters that stand together: flags, and behind them at most one option with a value, which is what
is left of the word, or the next word where nothing is left. -/
inductive Letters (forms : List OptionForm) : List Char → List Given → Option String → Prop
  | done : Letters forms [] [] none
  | flag {c : Char} {rest : List Char} {form : OptionForm} {value : String} {given : List Given}
      {pending : Option String} (named : forms.find? (·.name == String.ofList ['-', c]) = some form)
      (fixed : form.fixed = some value) (later : Letters forms rest given pending) :
      Letters forms (c :: rest) (⟨form.key, value⟩ :: given) pending
  | next {c : Char} {form : OptionForm}
      (named : forms.find? (·.name == String.ofList ['-', c]) = some form)
      (valued : form.fixed = none) : Letters forms [c] [] (some form.key)
  | joined {c : Char} {rest : List Char} {form : OptionForm}
      (named : forms.find? (·.name == String.ofList ['-', c]) = some form)
      (valued : form.fixed = none) (some : rest ≠ []) :
      Letters forms (c :: rest) [⟨form.key, String.ofList rest⟩] none

/-- The form with a long name. -/
def longForm? (forms : List OptionForm) (name : String) : Option OptionForm :=
  forms.find? fun f => f.isLong && f.name == name

/-- The options that a word gives, and the key of one whose value is the next word. -/
inductive Gives (forms : List OptionForm) : String → List Given → Option String → Prop
  | flag {name value : String} {form : OptionForm} (bare : '=' ∉ name.toList)
      (named : longForm? forms name = some form) (fixed : form.fixed = some value) :
      Gives forms name [⟨form.key, value⟩] none
  | joined {name value : String} {form : OptionForm} (bare : '=' ∉ name.toList)
      (named : longForm? forms name = some form) (valued : form.fixed = none) :
      Gives forms (name ++ "=" ++ value) [⟨form.key, value⟩] none
  | next {name : String} {form : OptionForm} (bare : '=' ∉ name.toList)
      (named : longForm? forms name = some form) (valued : form.fixed = none) :
      Gives forms name [] (some form.key)
  | letters {letters : List Char} {given : List Given} {pending : Option String}
      (short : longForm? forms (splitEquals ('-' :: letters)).1 = none)
      (single : letters.head? ≠ some '-') (stand : Letters forms letters given pending) :
      Gives forms (String.ofList ('-' :: letters)) given pending

/-- What the words of a command line hold. -/
inductive Words (forms : List OptionForm) : List String → Scanned → Prop
  | done : Words forms [] ⟨[], []⟩
  | ended (rest : List String) : Words forms ("--" :: rest) ⟨[], rest⟩
  | argument {word : String} {rest : List String} {s : Scanned} (plain : isOption word = false)
      (later : Words forms rest s) : Words forms (word :: rest) (s.withArgument word)
  | options {word : String} {rest : List String} {given : List Given} {s : Scanned}
      (dashed : isOption word = true) (goes : word ≠ "--") (gives : Gives forms word given none)
      (later : Words forms rest s) : Words forms (word :: rest) (s.withOptions given)
  | valued {word value key : String} {rest : List String} {given : List Given} {s : Scanned}
      (dashed : isOption word = true) (goes : word ≠ "--")
      (gives : Gives forms word given (some key)) (later : Words forms rest s) :
      Words forms (word :: value :: rest) (s.withOptions (given ++ [⟨key, value⟩]))

/-- What is assumed of a way to take command lines apart. -/
structure Conventional
    (scan : List OptionForm → List String → Except UsageError Scanned) : Prop where
  ok_iff : ∀ forms words s, scan forms words = .ok s ↔ Words forms words s

/-! ### A single word -/

theorem read_letters_ok_iff {letters : List Char} {given : List Given} {pending : Option String} :
    readLetters forms letters = .ok (given, pending) ↔ Letters forms letters given pending := by
  constructor
  · intro read
    induction letters generalizing given pending with
    | nil =>
        cases read
        exact .done
    | cons c rest ih =>
        simp only [readLetters] at read
        split at read
        · cases read
        · rename_i form named
          split at read
          · rename_i value fixed
            obtain ⟨⟨given', pending'⟩, later, same⟩ := Outcome.bind_ok read
            cases same
            exact .flag named fixed (ih later)
          · rename_i valued
            split at read
            · rename_i none
              cases read
              cases List.isEmpty_iff.mp none
              exact .next named valued
            · rename_i some
              cases read
              exact .joined named valued fun none => some (List.isEmpty_iff.mpr none)
  · intro letters
    induction letters with
    | done => rfl
    | flag named fixed later ih =>
        simp only [readLetters, named, fixed, ih]
        rfl
    | next named valued => simp only [readLetters, named, valued, List.isEmpty_nil, if_true]
    | joined named valued some =>
        simp only [readLetters, named, valued, List.isEmpty_eq_false_iff.mpr some,
          Bool.false_eq_true, if_false]

theorem split_equals_bare {name : String} (bare : '=' ∉ name.toList) :
    splitEquals name.toList = (name, none) := by
  have all : ∀ c ∈ name.toList, (c != '=') = true := fun c among =>
    bne_iff_ne.mpr fun same => bare (same ▸ among)
  rw [splitEquals, List.takeWhile_eq_self_iff.mpr all, List.dropWhile_eq_nil_iff.mpr all,
    String.ofList_toList]

theorem split_equals_joined {name : String} (bare : '=' ∉ name.toList) (value : String) :
    splitEquals (name ++ "=" ++ value).toList = (name, some value) := by
  have all : ∀ c ∈ name.toList, (c != '=') = true := fun c among =>
    bne_iff_ne.mpr fun same => bare (same ▸ among)
  have cut : (name ++ "=" ++ value).toList = name.toList ++ '=' :: value.toList := by
    simp only [String.toList_append, List.append_assoc]
    rfl
  rw [cut, splitEquals, List.takeWhile_append_of_pos all, List.dropWhile_append_of_pos all]
  simp only [List.takeWhile_cons, List.dropWhile_cons, bne_self_eq_false, Bool.false_eq_true,
    if_false, List.append_nil, String.ofList_toList]

/-- A word is a name, or a name with a value behind an equals sign. -/
theorem bare_or_joined (word : String) : '=' ∉ word.toList ∨
    ∃ name value, '=' ∉ String.toList name ∧ word = name ++ "=" ++ value := by
  by_cases signed : '=' ∈ word.toList
  · obtain ⟨name, value, cut, bare⟩ := List.eq_append_cons_of_mem signed
    refine .inr ⟨String.ofList name, String.ofList value, ?_, ?_⟩
    · rwa [String.toList_ofList]
    · apply String.toList_injective
      simp only [String.toList_append, String.toList_ofList, cut, List.append_assoc]
      rfl
  · exact .inl signed

/-- Where no long name fits, the word is read letter by letter, unless a second hyphen stands there. -/
theorem read_option_short {word : String} {letters : List Char} (cut : word.toList = '-' :: letters)
    (short : longForm? forms (splitEquals ('-' :: letters)).1 = none)
    (single : letters.head? ≠ some '-') : readOption forms word = readLetters forms letters := by
  rw [longForm?] at short
  rw [readOption, cut]
  simp only [short]
  split
  · rename_i same
    cases same
    exact absurd rfl single
  · rename_i same
    cases same
    rfl
  · rename_i same
    cases same

theorem read_option_of_gives {word : String} {given : List Given} {pending : Option String}
    (gives : Gives forms word given pending) : readOption forms word = .ok (given, pending) := by
  cases gives with
  | flag bare named fixed =>
      rw [longForm?] at named
      rw [readOption, split_equals_bare bare]
      simp only [named, fixed]
  | @joined name value form bare named valued =>
      rw [longForm?] at named
      rw [readOption, split_equals_joined bare]
      simp only [named, valued]
  | next bare named valued =>
      rw [longForm?] at named
      rw [readOption, split_equals_bare bare]
      simp only [named, valued]
  | letters short single stand =>
      rw [read_option_short String.toList_ofList short single]
      exact read_letters_ok_iff.mpr stand

theorem gives_of_read_option {word : String} {given : List Given} {pending : Option String}
    (dashed : isOption word = true) (read : readOption forms word = .ok (given, pending)) :
    Gives forms word given pending := by
  -- A word that gives some options gives no others.
  have sole {given' : List Given} {pending' : Option String}
      (gives : Gives forms word given' pending') : Gives forms word given pending := by
    cases read.symm.trans (read_option_of_gives gives)
    exact gives
  obtain ⟨letters, cut⟩ : ∃ letters, word.toList = '-' :: letters := by
    rw [isOption] at dashed
    split at dashed
    · rename_i c rest cut
      exact ⟨c :: rest, cut⟩
    · cases dashed
  cases named : longForm? forms (splitEquals word.toList).1 with
  | none =>
      rw [cut] at named
      by_cases double : letters.head? = some '-'
      · obtain ⟨rest, rfl⟩ := List.head?_eq_some_iff.mp double
        rw [longForm?] at named
        rw [readOption, cut] at read
        simp only [named] at read
        cases read
      · rw [read_option_short cut named double] at read
        rw [← String.ofList_toList (s := word), cut]
        exact .letters named double (read_letters_ok_iff.mp read)
  | some form =>
      rcases bare_or_joined word with bare | ⟨name, value, bare, rfl⟩
      · rw [split_equals_bare bare] at named
        cases fixed : form.fixed with
        | none => exact sole (.next bare named fixed)
        | some value => exact sole (.flag bare named fixed)
      · rw [split_equals_joined bare] at named
        cases fixed : form.fixed with
        | none => exact sole (.joined bare named fixed)
        | some _ =>
            rw [longForm?] at named
            rw [readOption, split_equals_joined bare] at read
            simp only [named, fixed] at read
            cases read

/-! ### The words in a row -/

theorem scan_ok_iff {words : List String} {s : Scanned} :
    scan forms words = .ok s ↔ Words forms words s := by
  constructor
  · intro scanned
    fun_induction scan forms words generalizing s with
    | case1 =>
        cases scanned
        exact .done
    | case2 word rest ends =>
        cases scanned
        cases eq_of_beq ends
        exact .ended rest
    | case3 word rest goes plain ih =>
        rw [Bool.not_eq_true'] at plain
        obtain ⟨later, behind, rfl⟩ := Outcome.map_ok scanned
        exact .argument plain (ih behind)
    | case4 | case6 => cases scanned
    | case5 word goes dashed given rest read ih =>
        obtain ⟨later, behind, rfl⟩ := Outcome.map_ok scanned
        rw [Bool.not_eq_true', Bool.not_eq_false] at dashed
        exact .options dashed (mt beq_iff_eq.mpr goes) (gives_of_read_option dashed read)
          (ih behind)
    | case7 word goes dashed given key value rest read ih =>
        obtain ⟨later, behind, rfl⟩ := Outcome.map_ok scanned
        rw [Bool.not_eq_true', Bool.not_eq_false] at dashed
        exact .valued dashed (mt beq_iff_eq.mpr goes) (gives_of_read_option dashed read)
          (ih behind)
  · intro words
    induction words with
    | done => rfl
    | ended rest =>
        unfold scan
        exact if_pos rfl
    | @argument word rest s plain later ih =>
        have goes : (word == "--") = false := by
          refine Bool.eq_false_iff.mpr fun same => ?_
          cases eq_of_beq same
          exact absurd plain (by decide)
        unfold scan
        simp only [goes, plain, Bool.false_eq_true, if_false, Bool.not_false, if_true, ih]
        rfl
    | options dashed goes gives later ih =>
        unfold scan
        simp only [beq_false_of_ne goes, dashed, Bool.false_eq_true, if_false, Bool.not_true,
          read_option_of_gives gives, ih]
        rfl
    | valued dashed goes gives later ih =>
        unfold scan
        simp only [beq_false_of_ne goes, dashed, Bool.false_eq_true, if_false, Bool.not_true,
          read_option_of_gives gives, ih]
        rfl

theorem scan_conventional : Conventional scan where
  ok_iff _ _ _ := scan_ok_iff

/-! ### Command lines written out -/

/-- Options with their values in the words behind them, two hyphens, and the arguments. -/
def write (given : List Given) (arguments : List String) : List String :=
  given.flatMap (fun g => [g.key, g.value]) ++ "--" :: arguments

/-- An option that takes a value, under a long name of its own. -/
structure Valued (forms : List OptionForm) (key : String) : Prop where
  dashed : isOption key = true
  bare : '=' ∉ key.toList
  named : longForm? forms key = some (.valued key)

theorem Valued.goes {key : String} (valued : Valued forms key) : key ≠ "--" := by
  rintro rfl
  have long := List.find?_some valued.named
  exact absurd long (by decide)

/-- Whatever the values and the arguments are, with hyphens or without, they are read as written. -/
theorem Conventional.written_read
    {scan : List OptionForm → List String → Except UsageError Scanned}
    (conventional : Conventional scan) {given : List Given} (arguments : List String)
    (valued : ∀ g ∈ given, Valued forms g.key) :
    scan forms (write given arguments) = .ok ⟨given, arguments⟩ := by
  rw [conventional.ok_iff]
  induction given with
  | nil => exact .ended arguments
  | cons g rest ih =>
      have first := valued g List.mem_cons_self
      have later := ih fun other among => valued other (.tail _ among)
      exact .valued first.dashed first.goes (.next first.bare first.named rfl) later

/-- The options for linting that take a value. -/
def valuedKeys : List String :=
  ["--config", "--executable", "--skip", "--rules-dir", "--exclude", "--blacklist", "--timeout",
    "--jobs", "--output", "--min-severity"]

/-- Every option for linting can be given every value. -/
theorem lint_words_read {given : List Given} (arguments : List String)
    (known : ∀ g ∈ given, g.key ∈ valuedKeys) :
    scan lintForms (write given arguments) = .ok ⟨given, arguments⟩ := by
  have all : ∀ key ∈ valuedKeys, isOption key = true ∧ '=' ∉ key.toList ∧
      longForm? lintForms key = some (.valued key) := by decide +kernel
  refine scan_conventional.written_read arguments fun g among => ?_
  obtain ⟨dashed, bare, named⟩ := all g.key (known g among)
  exact ⟨dashed, bare, named⟩

end PlaybookLint.CommandLine
