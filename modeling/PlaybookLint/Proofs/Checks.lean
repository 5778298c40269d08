import PlaybookLint.Proofs.Leniency
import PlaybookLint.Proofs.MoreRoom
import PlaybookLint.Proofs.Outcome
import PlaybookLint.Settings.Configuration

/-!
The checks of settings, one by one. A configuration is accepted exactly if every setting passes its own
check, and what is accepted of a setting depends on nothing but the value given for it. So a setting
comes to the same alone as among others.
-/

namespace PlaybookLint

namespace Configuration

/-! ### Every setting by its own check -/

/-- Every setting of a configuration is what its check makes of the value given for it. -/
structure Settled (entries : Entries) (c : Configuration) : Prop where
  executablePath : checkGiven entries .executablePath defaultExecutable asExecutable =
    .ok c.executablePath
  ruleSkips : checkGiven entries .ruleSkips "" asSkips = .ok c.ruleSkips
  rulesDirs : checkGiven entries .rulesDirs [""] asDirectories = .ok c.rulesDirs
  rulesDirDefault : checkGiven entries .rulesDirDefault false Datum.asFlag = .ok c.rulesDirDefault
  excludeDirs : checkGiven entries .excludeDirs [""] asDirectories = .ok c.excludeDirs
  useProjectConfig : checkGiven entries .useProjectConfig false Datum.asFlag =
    .ok c.useProjectConfig
  blacklist : checkGiven entries .blacklist "" Datum.asText = .ok c.blacklist
  displaySeverity : checkGiven entries .displaySeverity false Datum.asFlag = .ok c.displaySeverity
  timeout : checkGiven entries .timeout defaultTimeout Datum.asPositive = .ok c.timeout

theorem check_settings_ok_iff {entries : Entries} {c : Configuration} :
    checkSettings entries = .ok c ↔ Settled entries c ∧ c.exclusion = none := by
  constructor
  · intro passed
    rw [checkSettings] at passed
    generalize settings :
      Checked.both (checkGiven entries .executablePath defaultExecutable asExecutable) _ = together
        at passed
    cases together with
    | error found => cases passed
    | ok values =>
        cases passed
        obtain ⟨executable, settings⟩ := Checked.both_ok_iff.mp settings
        obtain ⟨skips, settings⟩ := Checked.both_ok_iff.mp settings
        obtain ⟨rules, settings⟩ := Checked.both_ok_iff.mp settings
        obtain ⟨keep, settings⟩ := Checked.both_ok_iff.mp settings
        obtain ⟨excludes, settings⟩ := Checked.both_ok_iff.mp settings
        obtain ⟨project, settings⟩ := Checked.both_ok_iff.mp settings
        obtain ⟨blacklist, settings⟩ := Checked.both_ok_iff.mp settings
        obtain ⟨severity, timeout⟩ := Checked.both_ok_iff.mp settings
        exact ⟨⟨executable, skips, rules, keep, excludes, project, blacklist, severity, timeout⟩,
          rfl⟩
  · rintro ⟨settled, uncompiled⟩
    obtain ⟨executable, skips, rules, keep, excludes, project, blacklist, severity, timeout⟩ :=
      settled
    simp only [checkSettings, executable, skips, rules, keep, excludes, project, blacklist,
      severity, timeout, Checked.both, Except.map, ← uncompiled]

/-! ### The pattern for excluded files -/

/-- The pattern that a text for excluded files stands for. -/
def exclusionOf (room : Room) (source : String) : Except Refusal (Option Pattern) :=
  if source.isEmpty then .ok none
  else
    match Pattern.compile room.patterns source with
    | .ok p => .ok (some p)
    | .error (.excess what) => .error (.excess what)
    | .error fault => .error (.problems [⟨[], patternComplaint source fault⟩])

theorem exclusion_ok {room : Room} {source : String} {e : Option Pattern}
    (compiled : exclusionOf room source = .ok e) :
    e = none ∧ source.isEmpty = true ∨
      source.isEmpty = false ∧ ∃ p, e = some p ∧ Pattern.compile room.patterns source = .ok p := by
  rw [exclusionOf] at compiled
  split at compiled
  · rename_i blank
    cases compiled
    exact .inl ⟨rfl, blank⟩
  · rename_i given
    split at compiled
    · rename_i p read
      cases compiled
      exact .inr ⟨Bool.eq_false_iff.mpr given, p, rfl, read⟩
    · cases compiled
    · cases compiled

/-- Wherever a pattern for excluded files can be compiled, it is the same. -/
theorem exclusion_agrees {room room' : Room} {source : String} {e e' : Option Pattern}
    (compiled : exclusionOf room source = .ok e) (compiled' : exclusionOf room' source = .ok e') :
    e = e' := by
  rcases exclusion_ok compiled with ⟨rfl, blank⟩ | ⟨given, p, rfl, read⟩
  · rcases exclusion_ok compiled' with ⟨rfl, _⟩ | ⟨given, _⟩
    · rfl
    · cases blank.symm.trans given
  · rcases exclusion_ok compiled' with ⟨_, blank⟩ | ⟨_, p', rfl, read'⟩
    · cases given.symm.trans blank
    · have same : Pattern.compile room.patterns source = Pattern.compile room'.patterns source :=
        Pattern.compile_agrees (by rw [read]; exact nofun) (by rw [read']; exact nofun)
      rw [read, read'] at same
      rw [Except.ok.inj same]

theorem compile_exclusion_eq (room : Room) (c : Configuration) :
    compileExclusion room c =
      (exclusionOf room c.blacklist).map fun e => { c with exclusion := e } := by
  rw [compileExclusion, exclusionOf]
  split
  · rfl
  · cases Pattern.compile room.patterns c.blacklist with
    | ok p => rfl
    | error fault => cases fault <;> rfl

/-- The pattern for excluded files has no part in the checks of the settings. -/
theorem Settled.with_exclusion {entries : Entries} {c : Configuration} (settled : Settled entries c)
    (e : Option Pattern) : Settled entries { c with exclusion := e } :=
  ⟨settled.executablePath, settled.ruleSkips, settled.rulesDirs, settled.rulesDirDefault,
    settled.excludeDirs, settled.useProjectConfig, settled.blacklist, settled.displaySeverity,
    settled.timeout⟩

variable {room : Room}

/-- Every setting passes its check, or there are problems, unless calls nest too deep. -/
theorem settled_or_problems {entries : Entries} (shallow : skipsTooDeep room entries = false) :
    (∃ c, Settled entries c) ∨ ∃ found, ofEntries room entries = .error (.problems found) := by
  cases checked : checkSettings entries with
  | ok c => exact .inl ⟨c, (check_settings_ok_iff.mp checked).1⟩
  | error found =>
      refine .inr ⟨found, ?_⟩
      rw [ofEntries, shallow, checked]
      rfl

/-- Once every setting has passed its check, the pattern for excluded files decides. -/
theorem of_entries_of_settled {entries : Entries} {c : Configuration}
    (shallow : skipsTooDeep room entries = false) (settled : Settled entries c) :
    ofEntries room entries =
      (exclusionOf room c.blacklist).map fun e => { c with exclusion := e } := by
  have checked : checkSettings entries = .ok { c with exclusion := none } :=
    check_settings_ok_iff.mpr ⟨settled.with_exclusion none, rfl⟩
  simp only [ofEntries, shallow, Bool.false_eq_true, if_false, checked, compile_exclusion_eq]

theorem of_entries_of_deep {entries : Entries} (deep : skipsTooDeep room entries = true) :
    ofEntries room entries = .error .tooDeep := by
  rw [ofEntries, if_pos deep]

/-- A configuration is accepted exactly if calls do not nest too deep, every setting passes its check
and the pattern for excluded files can be compiled. -/
theorem of_entries_ok_iff {entries : Entries} {c : Configuration} :
    ofEntries room entries = .ok c ↔ skipsTooDeep room entries = false ∧ Settled entries c ∧
      exclusionOf room c.blacklist = .ok c.exclusion := by
  cases shallow : skipsTooDeep room entries with
  | true =>
      rw [of_entries_of_deep shallow]
      exact iff_of_false nofun nofun
  | false =>
      constructor
      · intro accepted
        rcases settled_or_problems shallow with ⟨checked, settled⟩ | ⟨found, refused⟩
        · rw [of_entries_of_settled shallow settled] at accepted
          obtain ⟨e, compiled, rfl⟩ := Outcome.map_ok accepted
          exact ⟨rfl, settled.with_exclusion e, compiled⟩
        · rw [refused] at accepted
          cases accepted
      · rintro ⟨_, settled, compiled⟩
        rw [of_entries_of_settled shallow settled, compiled]
        rfl

/-! ### One setting at a time -/

/-- Two configurations have the same of a setting; the text for excluded files brings its pattern. -/
def Shares (s : Setting) (c c' : Configuration) : Prop :=
  match s with
  | .executablePath => c.executablePath = c'.executablePath
  | .ruleSkips => c.ruleSkips = c'.ruleSkips
  | .rulesDirs => c.rulesDirs = c'.rulesDirs
  | .rulesDirDefault => c.rulesDirDefault = c'.rulesDirDefault
  | .excludeDirs => c.excludeDirs = c'.excludeDirs
  | .useProjectConfig => c.useProjectConfig = c'.useProjectConfig
  | .blacklist => c.blacklist = c'.blacklist ∧ c.exclusion = c'.exclusion
  | .displaySeverity => c.displaySeverity = c'.displaySeverity
  | .timeout => c.timeout = c'.timeout

variable {α : Type} {entries entries' : Entries} {s t : Setting} {c c' : Configuration}

/-- A check looks at nothing but what is given for its setting. -/
theorem checked_eq {default : α} {check : Datum → Checked α} {a a' : α}
    (same : s.given? entries = s.given? entries')
    (passed : checkGiven entries s default check = .ok a)
    (passed' : checkGiven entries' s default check = .ok a') : a = a' := by
  rw [checkGiven, same, ← checkGiven, passed'] at passed
  exact (Except.ok.inj passed).symm

/-- What a check ensures of all that it accepts, and the default has as well, is true of the setting. -/
theorem checked_satisfies {P : α → Prop} {default a : α} {check : Datum → Checked α}
    (usual : P default) (ensures : ∀ d b, check d = .ok b → P b)
    (passed : checkGiven entries s default check = .ok a) : P a := by
  rw [checkGiven] at passed
  split at passed
  · rename_i key d given
    exact ensures d a (Outcome.map_error_ok passed)
  · cases passed
    exact usual

/-- Where the same is given for a setting, the same is accepted of it, however deep calls may nest. -/
theorem shares_of_given_eq {room' : Room} (accepted : ofEntries room entries = .ok c)
    (accepted' : ofEntries room' entries' = .ok c') (same : s.given? entries = s.given? entries') :
    Shares s c c' := by
  obtain ⟨_, first, compiled⟩ := of_entries_ok_iff.mp accepted
  obtain ⟨_, second, compiled'⟩ := of_entries_ok_iff.mp accepted'
  cases s with
  | executablePath => exact checked_eq same first.executablePath second.executablePath
  | ruleSkips => exact checked_eq same first.ruleSkips second.ruleSkips
  | rulesDirs => exact checked_eq same first.rulesDirs second.rulesDirs
  | rulesDirDefault => exact checked_eq same first.rulesDirDefault second.rulesDirDefault
  | excludeDirs => exact checked_eq same first.excludeDirs second.excludeDirs
  | useProjectConfig => exact checked_eq same first.useProjectConfig second.useProjectConfig
  | blacklist =>
      have text := checked_eq same first.blacklist second.blacklist
      exact ⟨text, exclusion_agrees (text ▸ compiled) compiled'⟩
  | displaySeverity => exact checked_eq same first.displaySeverity second.displaySeverity
  | timeout => exact checked_eq same first.timeout second.timeout

/-- The configuration that has one setting of another and the defaults apart from that. -/
def only (s : Setting) (c : Configuration) : Configuration where
  executablePath := if s = .executablePath then c.executablePath else defaultExecutable
  ruleSkips := if s = .ruleSkips then c.ruleSkips else ""
  rulesDirs := if s = .rulesDirs then c.rulesDirs else [""]
  rulesDirDefault := if s = .rulesDirDefault then c.rulesDirDefault else false
  excludeDirs := if s = .excludeDirs then c.excludeDirs else [""]
  useProjectConfig := if s = .useProjectConfig then c.useProjectConfig else false
  blacklist := if s = .blacklist then c.blacklist else ""
  displaySeverity := if s = .displaySeverity then c.displaySeverity else false
  timeout := if s = .timeout then c.timeout else defaultTimeout
  exclusion := if s = .blacklist then c.exclusion else none

/-- A check that passes among other settings passes for its setting alone. -/
theorem check_given_alone {key : String} {d : Datum} {default a : α} {check : Datum → Checked α}
    (given : s.given? entries = some (key, d))
    (alone : ∀ t, t.given? entries' = if s = t then some (key, d) else none)
    (passed : checkGiven entries t default check = .ok a) :
    checkGiven entries' t default check = .ok (if s = t then a else default) := by
  by_cases same : s = t
  · subst same
    rw [if_pos rfl, ← passed, checkGiven, checkGiven, given, alone, if_pos rfl]
  · rw [if_neg same, checkGiven, alone, if_neg same]

/-- Calls that do not nest too deep for a setting among others do not do so for it alone. -/
theorem shallow_alone {key : String} {d : Datum} (shallow : skipsTooDeep room entries = false)
    (given : s.given? entries = some (key, d))
    (alone : ∀ t, t.given? entries' = if s = t then some (key, d) else none) :
    skipsTooDeep room entries' = false := by
  by_cases skips : s = .ruleSkips
  · subst skips
    rwa [skipsTooDeep, alone, if_pos rfl, ← given, ← skipsTooDeep]
  · rw [skipsTooDeep, alone, if_neg skips]

/-- A setting that is accepted among others is accepted alone. -/
theorem of_entries_only {key : String} {d : Datum} (accepted : ofEntries room entries = .ok c)
    (given : s.given? entries = some (key, d))
    (alone : ∀ t, t.given? entries' = if s = t then some (key, d) else none) :
    ofEntries room entries' = .ok (only s c) := by
  obtain ⟨shallow, settled, compiled⟩ := of_entries_ok_iff.mp accepted
  refine of_entries_ok_iff.mpr ⟨shallow_alone shallow given alone, ?_, ?_⟩
  · exact
      { executablePath := check_given_alone given alone settled.executablePath
        ruleSkips := check_given_alone given alone settled.ruleSkips
        rulesDirs := check_given_alone given alone settled.rulesDirs
        rulesDirDefault := check_given_alone given alone settled.rulesDirDefault
        excludeDirs := check_given_alone given alone settled.excludeDirs
        useProjectConfig := check_given_alone given alone settled.useProjectConfig
        blacklist := check_given_alone given alone settled.blacklist
        displaySeverity := check_given_alone given alone settled.displaySeverity
        timeout := check_given_alone given alone settled.timeout }
  · by_cases blacklist : s = .blacklist
    · simp only [only, if_pos blacklist, compiled]
    · simp only [only, if_neg blacklist]
      rfl

end Configuration

end PlaybookLint
