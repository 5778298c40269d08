import PlaybookLint.Proofs.Precedence
import PlaybookLint.Proofs.TimeLimit

/-!
The normal form of configurations. Whatever a configuration was accepted from, its timeout is above zero
and its pattern is the one that its text stands for. It names a program and at least one directory of
either kind as well, but for two kinds of values that the checks let through: octets of a blank text for
the program, and an empty set for the directories. When a configuration is written out, its own values
are accepted again, by themselves or on top of other sources, and make it normal; nothing is changed by
that exactly if neither kind of value was given.
-/

namespace PlaybookLint

namespace Configuration

/-- What is true of every configuration that is accepted. -/
structure Sound (room : Room) (c : Configuration) : Prop where
  number : c.timeout ≠ .notANumber
  above : c.timeout.isPositive = true
  unfiltered : c.exclusion = none ↔ c.blacklist = ""
  compiled : ∀ p, c.exclusion = some p → Pattern.compile room.patterns c.blacklist = .ok p

/-- What is to be true of every configuration that is accepted. -/
structure Normal (room : Room) (c : Configuration) : Prop extends Sound room c where
  named : ∃ letter ∈ c.executablePath.toList, Text.isBlank letter = false
  rules : c.rulesDirs ≠ []
  excludes : c.excludeDirs ≠ []

/-- The octets of a blank text, which are not taken for nothing as the text itself is. -/
def BlankOctets (d : Datum) : Prop :=
  ∃ bytes s, d = .octets bytes ∧ Text.Utf8.decode bytes = .ok s ∧ Text.isAllBlank s = true

/-- A set with nothing in it, which is not taken for nothing as an empty list is. -/
def EmptySet (d : Datum) : Prop := ∃ frozen, d = .set frozen []

/-- None of the values given is let through by its check without being put right. -/
structure Proper (entries : Entries) : Prop where
  named : ∀ key d, Setting.given? entries .executablePath = some (key, d) → ¬BlankOctets d
  rules : ∀ key d, Setting.given? entries .rulesDirs = some (key, d) → ¬EmptySet d
  excludes : ∀ key d, Setting.given? entries .excludeDirs = some (key, d) → ¬EmptySet d

/-- The configuration with a program and directories where it names none. -/
def repaired (c : Configuration) : Configuration :=
  { c with
    executablePath :=
      if Text.isAllBlank c.executablePath then defaultExecutable else c.executablePath
    rulesDirs := if c.rulesDirs = [] then [""] else c.rulesDirs
    excludeDirs := if c.excludeDirs = [] then [""] else c.excludeDirs }

variable {room : Room} {entries : Entries} {c : Configuration}

/-! ### What checks let through -/

theorem not_all_blank_iff (s : String) :
    Text.isAllBlank s = false ↔ ∃ letter ∈ s.toList, Text.isBlank letter = false := by
  rw [Text.isAllBlank, List.all_eq_false]
  simp only [Bool.not_eq_true]

theorem default_executable_named : Text.isAllBlank defaultExecutable = false := by decide +kernel

theorem as_executable_blank_iff (d : Datum) (path : String) (passed : asExecutable d = .ok path) :
    Text.isAllBlank path = true ↔ BlankOctets d := by
  cases d with
  | null =>
      cases passed
      exact iff_of_false (by rw [default_executable_named]; exact nofun) nofun
  | text s =>
      have named : Text.isAllBlank path = false := by
        rw [asExecutable] at passed
        split at passed
        · cases passed
          exact default_executable_named
        · rename_i spoken
          cases passed
          exact Bool.eq_false_iff.mpr spoken
      exact iff_of_false (by rw [named]; exact nofun) nofun
  | octets bytes =>
      have read : Text.Utf8.decode bytes = .ok path := by
        cases Datum.as_text_ok_iff.mp passed with
        | octets decodes => exact decodes
      constructor
      · intro blank
        exact ⟨bytes, path, rfl, read, blank⟩
      · rintro ⟨_, s, same, read', blank⟩
        cases same
        cases read.symm.trans read'
        exact blank
  | _ => cases passed

theorem as_texts_nil_iff {d : Datum} {items : List Datum} {dirs : List String}
    (holds : Datum.Holds d items) (passed : d.asTexts = .ok dirs) : dirs = [] ↔ items = [] := by
  obtain ⟨items', holds', each⟩ := Datum.as_texts_ok_iff.mp passed
  have same : items = items' := by cases holds <;> cases holds' <;> rfl
  rw [same, ← List.length_eq_zero_iff, ← List.length_eq_zero_iff, each.length_eq]

theorem as_directories_filled {d first : Datum} {rest : List Datum}
    (holds : Datum.Holds d (first :: rest)) : asDirectories d = d.asTexts := by
  cases holds <;> rfl

theorem as_directories_nil_iff (d : Datum) (dirs : List String) (passed : asDirectories d = .ok dirs) :
    dirs = [] ↔ EmptySet d := by
  cases d with
  | null | text s =>
      cases passed
      exact iff_of_false (List.cons_ne_nil _ _) nofun
  | list items | tuple items =>
      refine iff_of_false ?_ nofun
      cases items with
      | nil =>
          cases passed
          exact List.cons_ne_nil _ _
      | cons first rest =>
          rw [as_directories_filled (by constructor)] at passed
          exact fun none =>
            List.cons_ne_nil first rest ((as_texts_nil_iff (by constructor) passed).mp none)
  | set frozen items =>
      rw [as_texts_nil_iff (.set frozen items) passed]
      constructor
      · rintro rfl
        exact ⟨frozen, rfl⟩
      · rintro ⟨_, same⟩
        cases same
        rfl
  | _ => cases passed

/-- Where the default has a property and a check ensures it of all values but some, the setting has it
unless such a value was given. -/
theorem checked_iff {α : Type} {P : α → Prop} {Q : Datum → Prop} {s : Setting} {default a : α}
    {check : Datum → Checked α} (usual : P default) (ensures : ∀ d b, check d = .ok b → (P b ↔ ¬Q d))
    (passed : checkGiven entries s default check = .ok a) :
    P a ↔ ∀ key d, s.given? entries = some (key, d) → ¬Q d := by
  rw [checkGiven] at passed
  split at passed
  · rename_i key d given
    rw [ensures d a (Outcome.map_error_ok passed)]
    constructor
    · intro proper key' d' given'
      cases given.symm.trans given'
      exact proper
    · intro proper
      exact proper key d given
  · rename_i absent
    cases passed
    refine iff_of_true usual fun key d given => ?_
    cases absent.symm.trans given

theorem named_iff (settled : Settled entries c) : Text.isAllBlank c.executablePath = false ↔
    ∀ key d, Setting.given? entries .executablePath = some (key, d) → ¬BlankOctets d := by
  refine checked_iff (P := (Text.isAllBlank · = false)) default_executable_named ?_
    settled.executablePath
  intro d path passed
  rw [← as_executable_blank_iff d path passed, Bool.not_eq_true]

theorem directories_iff {s : Setting} {dirs : List String}
    (passed : checkGiven entries s [""] asDirectories = .ok dirs) :
    dirs ≠ [] ↔ ∀ key d, s.given? entries = some (key, d) → ¬EmptySet d :=
  checked_iff (P := (· ≠ [])) (List.cons_ne_nil _ _)
    (fun d dirs passed => not_congr (as_directories_nil_iff d dirs passed)) passed

theorem repaired_eq_iff : c.repaired = c ↔
    Text.isAllBlank c.executablePath = false ∧ c.rulesDirs ≠ [] ∧ c.excludeDirs ≠ [] := by
  constructor
  · intro same
    refine ⟨?_, ?_, ?_⟩
    · by_contra blank
      rw [Bool.not_eq_false] at blank
      have path : (if Text.isAllBlank c.executablePath then defaultExecutable
          else c.executablePath) = c.executablePath := congrArg executablePath same
      rw [if_pos blank] at path
      rw [← path, default_executable_named] at blank
      cases blank
    · intro none
      have dirs : (if c.rulesDirs = [] then [""] else c.rulesDirs) = c.rulesDirs :=
        congrArg rulesDirs same
      rw [if_pos none, none] at dirs
      cases dirs
    · intro none
      have dirs : (if c.excludeDirs = [] then [""] else c.excludeDirs) = c.excludeDirs :=
        congrArg excludeDirs same
      rw [if_pos none, none] at dirs
      cases dirs
  · rintro ⟨named, rules, excludes⟩
    simp only [repaired, named, rules, excludes, Bool.false_eq_true, if_false]

theorem repaired_iff_proper (settled : Settled entries c) : c.repaired = c ↔ Proper entries := by
  rw [repaired_eq_iff, named_iff settled, directories_iff settled.rulesDirs,
    directories_iff settled.excludeDirs]
  exact ⟨fun ⟨named, rules, excludes⟩ => ⟨named, rules, excludes⟩,
    fun ⟨named, rules, excludes⟩ => ⟨named, rules, excludes⟩⟩

/-! ### Accepted configurations -/

theorem exclusion_of_ok_iff (room : Room) (source : String) (exclusion : Option Pattern) :
    exclusionOf room source = .ok exclusion ↔ (exclusion = none ↔ source = "") ∧
      ∀ p, exclusion = some p → Pattern.compile room.patterns source = .ok p := by
  rw [exclusionOf]
  by_cases empty : source = ""
  · subst empty
    cases exclusion with
    | none => simp
    | some p => simp
  · have filled : source.isEmpty = false := by simpa using empty
    simp only [filled, Bool.false_eq_true, if_false, empty, iff_false]
    cases compiled : Pattern.compile room.patterns source with
    | error fault =>
        cases exclusion with
        | none => cases fault <;> simp
        | some p => cases fault <;> simp
    | ok p =>
        cases exclusion with
        | none => simp
        | some q => simp

theorem sound_of_accepted (accepted : ofEntries room entries = .ok c) : c.Sound room := by
  obtain ⟨_, settled, compiled⟩ := of_entries_ok_iff.mp accepted
  have above := accepted_timeout_positive accepted
  obtain ⟨unfiltered, compiled⟩ := (exclusion_of_ok_iff _ _ _).mp compiled
  refine ⟨?_, above, unfiltered, compiled⟩
  intro noNumber
  rw [noNumber] at above
  cases above

/-- A sound configuration is normal exactly if there is nothing to put right. -/
theorem Sound.normal_iff (sound : c.Sound room) : c.Normal room ↔ c.repaired = c := by
  rw [repaired_eq_iff, not_all_blank_iff]
  constructor
  · intro normal
    exact ⟨normal.named, normal.rules, normal.excludes⟩
  · rintro ⟨named, rules, excludes⟩
    exact ⟨sound, named, rules, excludes⟩

/-- What is put right stays so. -/
theorem repaired_repaired (c : Configuration) : c.repaired.repaired = c.repaired := by
  rw [repaired_eq_iff]
  refine ⟨?_, ?_, ?_⟩
  · by_cases blank : Text.isAllBlank c.executablePath = true
    · simp only [repaired, blank, if_true, default_executable_named]
    · simp only [repaired, blank, Bool.false_eq_true, if_false]
  · simp only [repaired]
    split <;> simp [*]
  · simp only [repaired]
    split <;> simp [*]

/-- Where calls may nest deeper, a sound configuration is sound as well. -/
theorem Sound.with_more_room (sound : c.Sound room) {more : Room}
    (le : room.patterns ≤ more.patterns) : c.Sound more := by
  refine ⟨sound.number, sound.above, sound.unfiltered, fun p held => ?_⟩
  have compiled := sound.compiled p held
  rw [← compiled]
  exact ((Pattern.compile_keeps le c.blacklist).resolve_left (by rw [compiled]; exact nofun)).symm

/-! ### Configurations that are written out -/

/-- The value of a setting as it is written out. -/
def value (c : Configuration) : Setting → Datum
  | .executablePath => .text c.executablePath
  | .ruleSkips => .text c.ruleSkips
  | .rulesDirs => .tuple (c.rulesDirs.map .text)
  | .rulesDirDefault => .flag c.rulesDirDefault
  | .excludeDirs => .tuple (c.excludeDirs.map .text)
  | .useProjectConfig => .flag c.useProjectConfig
  | .blacklist => .text c.blacklist
  | .displaySeverity => .flag c.displaySeverity
  | .timeout => .decimal c.timeout

/-- All settings of the configuration are found in the entries, under their own names. -/
def Carries (entries : Entries) (c : Configuration) : Prop :=
  ∀ s : Setting, entries.value? s.name = some (c.value s)

theorem carries_to_entries (c : Configuration) : Carries c.toEntries c := by
  intro s
  cases s <;> rfl

theorem check_given_carried {α : Type} (carries : Carries entries c) (s : Setting) {default a : α}
    {check : Datum → Checked α} (passes : check (c.value s) = .ok a) :
    checkGiven entries s default check = .ok a := by
  rw [checkGiven, Settings.given_of_value (carries s)]
  simp only [passes]
  rfl

theorem as_texts_written (dirs : List String) :
    Datum.asTexts (.tuple (dirs.map .text)) = .ok dirs := by
  refine Datum.as_texts_ok_iff.mpr ⟨dirs.map .text, .tuple _, ?_⟩
  rw [List.forall₂_map_left_iff, List.forall₂_same]
  exact fun dir _ => .text dir

theorem as_directories_written (dirs : List String) :
    asDirectories (.tuple (dirs.map .text)) = .ok (if dirs = [] then [""] else dirs) := by
  cases dirs with
  | nil => rfl
  | cons dir rest => exact as_texts_written (dir :: rest)

/-- Where a sound configuration is written out, whatever else stands there, it is read back with what
had to be put right. -/
theorem of_entries_of_carries (sound : c.Sound room) (carries : Carries entries c) :
    ofEntries room entries = .ok c.repaired := by
  have shallow : skipsTooDeep room entries = false := by
    rw [skipsTooDeep, Settings.given_of_value (carries .ruleSkips)]
    rfl
  have limit : Datum.asPositive (.decimal c.timeout) = .ok c.timeout := by
    rw [Datum.asPositive, Datum.as_number_ok_iff.mpr (.decimal c.timeout)]
    exact if_pos sound.above
  -- The values of the other settings are of the very kind that their checks hand on as it is.
  refine of_entries_ok_iff.mpr
    ⟨shallow, ?_, (exclusion_of_ok_iff _ _ _).mpr ⟨sound.unfiltered, sound.compiled⟩⟩
  exact
    { executablePath := check_given_carried carries .executablePath rfl
      ruleSkips := check_given_carried carries .ruleSkips rfl
      rulesDirs := check_given_carried carries .rulesDirs (as_directories_written c.rulesDirs)
      rulesDirDefault := check_given_carried carries .rulesDirDefault rfl
      excludeDirs := check_given_carried carries .excludeDirs (as_directories_written c.excludeDirs)
      useProjectConfig := check_given_carried carries .useProjectConfig rfl
      blacklist := check_given_carried carries .blacklist rfl
      displaySeverity := check_given_carried carries .displaySeverity rfl
      timeout := check_given_carried carries .timeout limit }

end Configuration

namespace Settings

theorem renamed_to_entries (c : Configuration) : renamed c.toEntries = c.toEntries := by
  have own (s : Setting) : Setting.canonicalKey s.name = s.name :=
    (Setting.canonical_key_eq_name_iff s s.name).mpr (Setting.spells_forms s).1
  simp only [renamed, Configuration.toEntries, List.map_cons, List.map_nil, own]

theorem carries_put_all (merged : Entries) (c : Configuration) :
    Configuration.Carries (merged.putAll (canonical c.toEntries)) c := by
  intro s
  rw [Entries.value_put_all, value_canonical, renamed_to_entries, c.carries_to_entries s,
    Option.some_or]

theorem merge_append {host : Host} {earlier : List Source} {start merged : Entries}
    {log : List LogRecord} (done : merge host earlier start = (log, .ok merged))
    (later : List Source) :
    (merge host (earlier ++ later) start).2 = (merge host later merged).2 := by
  induction earlier generalizing start log with
  | nil =>
      cases done
      rfl
  | cons source rest ih =>
      obtain ⟨fragment, log', loaded, next⟩ := merge_cons done
      rw [List.cons_append, merge, loaded]
      exact ih next

/-- A sound configuration that is written out behind any other sources decides on everything. -/
theorem load_written {host : Host} {earlier : List Source} {merged : Entries} {log : List LogRecord}
    {c : Configuration} (sound : c.Sound host.room)
    (done : merge host earlier [] = (log, .ok merged)) (name : String) :
    (load host (earlier ++ [.memory c.toEntries name])).2 = .ok c.repaired := by
  have whole : (merge host (earlier ++ [.memory c.toEntries name]) []).2 =
      .ok (merged.putAll (canonical c.toEntries)) := merge_append done _
  have accepted := Configuration.of_entries_of_carries sound (carries_put_all merged c)
  simp only [load, whole, Except.bind, accepted]
  rfl

end Settings

namespace Configuration

theorem proper_to_entries (c : Configuration) : Proper c.toEntries := by
  have given (s : Setting) {key : String} {d : Datum}
      (found : s.given? c.toEntries = some (key, d)) : d = c.value s := by
    rw [Settings.given_of_value (carries_to_entries c s)] at found
    cases found
    rfl
  refine ⟨fun key d found => ?_, fun key d found => ?_, fun key d found => ?_⟩ <;>
    rw [given _ found] <;> exact nofun

/-- The normal configurations are those that proper values make. -/
theorem normal_iff_accepted (room : Room) (c : Configuration) :
    c.Normal room ↔ ∃ entries, Proper entries ∧ ofEntries room entries = .ok c := by
  constructor
  · intro normal
    have again := of_entries_of_carries normal.toSound (carries_to_entries c)
    rw [normal.toSound.normal_iff.mp normal] at again
    exact ⟨c.toEntries, proper_to_entries c, again⟩
  · rintro ⟨entries, proper, accepted⟩
    obtain ⟨_, settled, _⟩ := of_entries_ok_iff.mp accepted
    exact (sound_of_accepted accepted).normal_iff.mpr ((repaired_iff_proper settled).mpr proper)

/-- The values of an accepted configuration are accepted again, directly and as a source in memory on
top of the defaults or of any other sources that can be read, wherever calls may nest as deep. What they
make is put right if it has to be. The configuration is normal, and comes back as it was, exactly if it
was not made of octets of a blank text for the program or of an empty set for the directories; its
timeout and its pattern are as they are to be in any case. -/
theorem accepted_replays_iff {room : Room} {entries : Entries} {c : Configuration}
    (accepted : ofEntries room entries = .ok c) :
    c.Sound room ∧ (c.Normal room ↔ Proper entries) ∧
      (ofEntries room c.toEntries = .ok c ↔ Proper entries) ∧
      (ofEntries room c.toEntries = .ok c.repaired ∧ c.repaired.Normal room) ∧
      ∀ host : Host, room.patterns ≤ host.room.patterns →
        (∀ name, (Settings.load host [.defaults, .memory c.toEntries name]).2 = .ok c ↔
          Proper entries) ∧
        ∀ earlier log merged name, Settings.merge host earlier [] = (log, .ok merged) →
          (Settings.load host (earlier ++ [.memory c.toEntries name])).2 = .ok c.repaired := by
  obtain ⟨_, settled, _⟩ := of_entries_ok_iff.mp accepted
  have sound := sound_of_accepted accepted
  have proper := repaired_iff_proper settled
  have again := of_entries_of_carries sound (carries_to_entries c)
  refine ⟨sound, sound.normal_iff.trans proper, ?_, ⟨again, ?_⟩, ?_⟩
  · rw [again, Except.ok.injEq, proper]
  · exact (sound_of_accepted again).normal_iff.mpr (repaired_repaired c)
  · intro host le
    have sound := sound.with_more_room le
    refine ⟨fun name => ?_, fun earlier log merged name done => Settings.load_written sound done name⟩
    have defaults : Settings.merge host [.defaults] [] = (_, .ok _) := rfl
    have made := Settings.load_written sound defaults name
    rw [List.singleton_append] at made
    rw [made, Except.ok.injEq, proper]

/-- Blank, missing and loosely written values. -/
def loose : Entries :=
  [("executable_path", .text " \t"), ("rulesDirs", .null), ("exclude_dirs", .list []),
    ("ruleSkips", .list [.text " E301", .text "E502"]), ("blacklist", .text "travis"),
    ("timeout", .text " 2.5 ")]

theorem loose_proper : Proper loose := by
  refine ⟨?_, ?_, ?_⟩ <;> intro key d given <;> cases given <;> exact nofun

/-- They are put right once, and then stay as they are. -/
theorem loose_values_replay :
    ∃ c, ofEntries .usual loose = .ok c ∧
      (c.executablePath, c.ruleSkips) = ("ansible-lint", "E301,E502") ∧
      ofEntries .usual c.toEntries = .ok c := by
  have values : (ofEntries .usual loose).toOption.map (fun c => (c.executablePath, c.ruleSkips)) =
      some ("ansible-lint", "E301,E502") := by decide +kernel
  cases accepted : ofEntries .usual loose with
  | error refusal =>
      rw [accepted] at values
      cases values
  | ok c =>
      rw [accepted] at values
      exact ⟨c, rfl, Option.some.inj values, (accepted_replays_iff accepted).2.2.1.mpr loose_proper⟩

/-- An empty set of directories is let through and leaves none, and octets of a blank text leave a blank
program. Written out and read back, neither is the same configuration. -/
theorem empty_set_changed :
    ofEntries .usual [("rules_dirs", .set false [])] = .ok { default with rulesDirs := [] } ∧
      ofEntries .usual { default with rulesDirs := [] }.toEntries = .ok default ∧
      ofEntries .usual [("executable_path", .octets [32, 32])] =
        .ok { default with executablePath := "  " } ∧
      ofEntries .usual { default with executablePath := "  " }.toEntries = .ok default ∧
      ({ default with rulesDirs := [] } : Configuration) ≠ default ∧
      ({ default with executablePath := "  " } : Configuration) ≠ default := by
  refine ⟨rfl, rfl, rfl, rfl, fun same => ?_, fun same => ?_⟩
  · cases congrArg rulesDirs same
  · have blank : "  " = defaultExecutable := congrArg executablePath same
    exact absurd blank (by decide)

end Configuration

end PlaybookLint
