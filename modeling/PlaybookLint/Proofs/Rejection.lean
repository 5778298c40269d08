import Mathlib
import PlaybookLint.CommandLine
import PlaybookLint.Proofs.Escapes

/-!
How a task of the command line ends when its settings cannot be loaded. A fault of the settings is
reported, and the task ends with the code for it, which means nothing else. Any other fault leaves the
task without an orderly end, and so does a current directory that is gone.
-/

namespace PlaybookLint.CommandLine

/-- The settings of the project in the current directory. -/
def settingsHere (host : Host) (configFile : Option Path) (overrides : Entries) :
    Except Files.ResolveFault (Except Settings.Fault Configuration) := do
  Settings.loadProject host (← host.cwdPath) none configFile overrides overridesName

/-- The settings that a task is carried out with. -/
def Task.settings (host : Host) :
    Task → Except Files.ResolveFault (Except Settings.Fault Configuration)
  | .lint t => settingsHere host t.configFile t.overrides
  | .checkVersion t => settingsHere host t.configFile t.overrides

variable {host : Host} {configFile : Option Path} {overrides : Entries}

theorem load_settings_outcome : (loadSettings host configFile overrides).map Run.outcome =
    settingsHere host configFile overrides := by
  rw [loadSettings, settingsHere]
  cases host.cwdPath with
  | error refused => rfl
  | ok directory =>
      simp only [Settings.loadProject, bind, Except.bind, pure, Except.pure]
      cases host.resolve directory with
      | error refused => rfl
      | ok root =>
          simp only
          cases Settings.sourcesFor host root none configFile <;> rfl

/-- What becomes of a task, told by what becomes of its settings. -/
inductive Ended (style : Console.Style) (next : Configuration → String → Except Fault Result) :
    Except Files.ResolveFault (Except Settings.Fault Configuration) → Except Fault Result → Prop
  | unresolved (refused : Files.ResolveFault) :
      Ended style next (.error refused) (.error (.resolve refused))
  | rejected {fault : Settings.Fault} (stderr : String) (own : fault.isConfiguration = true) :
      Ended style next (.ok (.error fault)) (.ok (rejected style fault stderr))
  | escaped {fault : Settings.Fault} (foreign : fault.isConfiguration = false) :
      Ended style next (.ok (.error fault)) (.error (.settings fault))
  | loaded (c : Configuration) (stderr : String) : Ended style next (.ok (.ok c)) (next c stderr)

theorem with_settings_ended (style : Console.Style) (verbose : Bool)
    (next : Configuration → String → Except Fault Result) :
    Ended style next (settingsHere host configFile overrides)
      (withSettings host configFile overrides style verbose next) := by
  rw [← load_settings_outcome, withSettings]
  cases loadSettings host configFile overrides with
  | error refused => exact .unresolved refused
  | ok run =>
      obtain ⟨events, outcome⟩ := run
      cases outcome with
      | ok c => exact .loaded c (shownEvents style verbose events)
      | error fault =>
          cases own : fault.isConfiguration with
          | true =>
              simp only [Except.map, Except.mapError, bind, Except.bind, own]
              exact .rejected (shownEvents style verbose events) own
          | false =>
              simp only [Except.map, Except.mapError, bind, Except.bind, own]
              exact .escaped own

/-- An end that cannot be mistaken for one that loading leads to. -/
inductive Apart : Except Fault Result → Prop
  | broken (fault : LintFault) : Apart (.error (.lint fault))
  | done {result : Result} (code : result.code ≠ settingsCode) : Apart (.ok result)

theorem code_for_apart (shown : List Diagnostic) : codeFor shown ≠ settingsCode := by
  rw [codeFor]
  split <;> decide

theorem announce_apart (style : Console.Style) (found : VersionReport) (stderr : String) :
    (announce style found stderr).code ≠ settingsCode := by
  rw [announce]
  cases found.status with
  | supported => exact Nat.zero_ne_add_one 1
  | unsupported => exact Nat.succ_ne_succ_iff.mpr Nat.zero_ne_one
  | unavailable => exact Nat.succ_ne_succ_iff.mpr Nat.zero_ne_one

theorem apart_of_outcome {α : Type} {outcome : Except LintFault α} {next : α → Result}
    (codes : ∀ a, (next a).code ≠ settingsCode) :
    Apart (do let a ← outcome.mapError .lint; return next a) := by
  cases outcome with
  | error fault => exact .broken fault
  | ok a => exact .done (codes a)

/-- Requests are made of all files, or one of them is refused. -/
theorem requests_made_or_refused (host : Host) (c : Configuration) (files : List Path) :
    (∃ requests, (files.mapM fun file => (Request.ofFile host file none c none).mapError
      fun refusal => Fault.lint (.request refusal)) = .ok requests) ∨
    ∃ fault, (files.mapM fun file => (Request.ofFile host file none c none).mapError
      fun refusal => Fault.lint (.request refusal)) = .error (.lint fault) := by
  induction files with
  | nil => exact .inl ⟨[], rfl⟩
  | cons file rest ih =>
      rw [List.mapM_cons]
      cases Request.ofFile host file none c none with
      | error refusal => exact .inr ⟨.request refusal, rfl⟩
      | ok request =>
          rcases ih with ⟨requests, made⟩ | ⟨fault, refused⟩
          · rw [made]
            exact .inl ⟨request :: requests, rfl⟩
          · rw [refused]
            exact .inr ⟨fault, rfl⟩

/-- A task ends by its settings, and otherwise in a way of its own. -/
theorem task_ended (host : Host) (terminal : Bool) (t : Task) :
    ∃ style next, Ended style next (t.settings host) (t.run host terminal) ∧
      ∀ c stderr, Apart (next c stderr) := by
  cases t with
  | lint t =>
      rw [Task.run, LintTask.run, LintTask.runWith, Task.settings]
      refine ⟨_, _, with_settings_ended _ t.verbose _, ?_⟩
      intro c stderr
      rcases requests_made_or_refused host c t.files with ⟨requests, made⟩ | ⟨fault, refused⟩
      · rw [made]
        exact apart_of_outcome fun batches => code_for_apart _
      · rw [refused]
        exact .broken fault
  | checkVersion t =>
      rw [Task.run, CheckTask.run, Task.settings]
      refine ⟨_, _, with_settings_ended _ false _, ?_⟩
      intro c stderr
      exact apart_of_outcome fun found => announce_apart _ found _

/-- The code for settings stands for a fault of the settings, and such a fault always leads to it. -/
theorem settings_code_iff (host : Host) (terminal : Bool) (t : Task) :
    (∃ result, t.run host terminal = .ok result ∧ result.code = settingsCode) ↔
      ∃ fault, t.settings host = .ok (.error fault) ∧ fault.isConfiguration = true := by
  obtain ⟨style, next, ended, apart⟩ := task_ended host terminal t
  generalize t.settings host = settings at ended
  generalize t.run host terminal = run at ended
  cases ended with
  | unresolved refused => simp
  | rejected stderr own => simpa [rejected] using own
  | escaped foreign => simp [foreign]
  | loaded c stderr =>
      have own := apart c stderr
      generalize next c stderr = run at own
      cases own with
      | broken fault => simp
      | done code => simpa using code

/-- A task ends in a fault of loading exactly if that fault is not one of the settings. -/
theorem settings_fault_iff (host : Host) (terminal : Bool) (t : Task) (fault : Settings.Fault) :
    t.run host terminal = .error (.settings fault) ↔
      t.settings host = .ok (.error fault) ∧ fault.isConfiguration = false := by
  obtain ⟨style, next, ended, apart⟩ := task_ended host terminal t
  generalize t.settings host = settings at ended
  generalize t.run host terminal = run at ended
  cases ended with
  | unresolved refused => simp
  | rejected stderr own =>
      constructor
      · intro same
        cases same
      · rintro ⟨same, foreign⟩
        cases same
        cases own.symm.trans foreign
  | escaped foreign =>
      constructor
      · intro same
        cases same
        exact ⟨rfl, foreign⟩
      · rintro ⟨same, _⟩
        cases same
        rfl
  | loaded c stderr =>
      have own := apart c stderr
      generalize next c stderr = run at own
      cases own with
      | broken other => simp
      | done code => simp

/-- A task comes to nothing for want of a root exactly if its settings do. -/
theorem unresolved_iff (host : Host) (terminal : Bool) (t : Task) (refused : Files.ResolveFault) :
    t.run host terminal = .error (.resolve refused) ↔ t.settings host = .error refused := by
  obtain ⟨style, next, ended, apart⟩ := task_ended host terminal t
  generalize t.settings host = settings at ended
  generalize t.run host terminal = run at ended
  cases ended with
  | unresolved refused' => simp
  | rejected stderr own => simp
  | escaped foreign => simp
  | loaded c stderr =>
      have own := apart c stderr
      generalize next c stderr = run at own
      cases own with
      | broken other => simp
      | done code => simp

/-- The root of a project has an absolute form or not, and nothing else stands in the way before its
settings are looked for. -/
theorem load_project_unresolved_iff (root : Path) (user explicit : Option Path) (overrides : Entries)
    (name : String) (refused : Files.ResolveFault) :
    Settings.loadProject host root user explicit overrides name = .error refused ↔
      host.resolve root = .error refused := by
  rw [Settings.loadProject]
  cases host.resolve root with
  | error other =>
      constructor <;> intro same <;> cases same <;> rfl
  | ok absolute => constructor <;> intro same <;> cases same

/-- Exactly which faults escape, that is, are not faults of the settings although they come up while
settings are loaded: for a project, when values are checked, and on the command line, where all other
faults lead to the code for settings and nothing else does. -/
theorem fault_escapes_iff (host : Host) (fault : Settings.Fault) (refused : Files.ResolveFault) :
    (∀ root user explicit overrides name,
      (Settings.loadProject host root user explicit overrides name = .ok (.error fault) ∧
          fault.isConfiguration = false ↔
        ∃ absolute, host.resolve root = .ok absolute ∧
          Settings.ProjectEscapes host absolute user explicit overrides name fault) ∧
      (Settings.loadProject host root user explicit overrides name = .error refused ↔
        host.resolve root = .error refused)) ∧
    (∀ room entries,
      ((Configuration.ofEntries room entries).mapError Settings.Fault.ofRefusal = .error fault ∧
          fault.isConfiguration = false ↔
        (∃ what, fault = .excess what ∧ Configuration.Exceeds room entries what) ∨
          fault = .tooDeep ∧ Configuration.skipsTooDeep room entries = true)) ∧
    ∀ terminal (t : Task),
      ((∃ result, t.run host terminal = .ok result ∧ result.code = settingsCode) ↔
        ∃ own, t.settings host = .ok (.error own) ∧ own.isConfiguration = true) ∧
      (t.run host terminal = .error (.settings fault) ↔
        t.settings host = .ok (.error fault) ∧ fault.isConfiguration = false) ∧
      (t.run host terminal = .error (.resolve refused) ↔ t.settings host = .error refused) := by
  refine ⟨fun root user explicit overrides name => ⟨?_, load_project_unresolved_iff _ _ _ _ _ _⟩,
    ?_, fun terminal t => ⟨settings_code_iff host terminal t,
      settings_fault_iff host terminal t fault, unresolved_iff host terminal t refused⟩⟩
  · constructor
    · rintro ⟨ended, foreign⟩
      exact (Settings.load_project_escapes_iff foreign).mp ended
    · rintro ⟨absolute, resolved, escapes⟩
      have foreign := escapes.foreign
      exact ⟨(Settings.load_project_escapes_iff foreign).mpr ⟨absolute, resolved, escapes⟩, foreign⟩
  · intro room entries
    constructor
    · rintro ⟨ended, foreign⟩
      cases built : Configuration.ofEntries room entries with
      | ok c =>
          rw [built] at ended
          cases ended
      | error refusal =>
          rw [built] at ended
          cases refusal with
          | problems found =>
              cases ended
              cases foreign
          | excess what =>
              cases ended
              exact .inl ⟨what, rfl, Configuration.of_entries_excess_iff.mp built⟩
          | tooDeep =>
              cases ended
              exact .inr ⟨rfl, Configuration.of_entries_deep_iff.mp built⟩
    · rintro (⟨what, rfl, exceeds⟩ | ⟨rfl, deep⟩)
      · rw [Configuration.of_entries_excess_iff.mpr exceeds]
        exact ⟨rfl, rfl⟩
      · rw [Configuration.of_entries_deep_iff.mpr deep]
        exact ⟨rfl, rfl⟩

/-- A host where the project's file of settings holds an octet that begins no character. -/
def garbled : Host :=
  .plain [(["work"], .directory), (["work", ".ansible-lint-adapter.toml"], .file [0xff] false)]
    ["work"] [("HOME", "/home")]

/-- The project's file of settings on that host. -/
def garbledFile : Path := ⟨.slash, ["work", ".ansible-lint-adapter.toml"]⟩

theorem garbled_project_escapes (overrides : Entries) (name : String) :
    Settings.ProjectEscapes garbled ⟨.slash, ["work"]⟩ none none overrides name
      (.undecodable ⟨0, [0xff], .badStart⟩) := by
  have home : garbled.home? = some (Path.ofText "/home") := by decide +kernel
  have project : garbled.probe ((Path.mk .slash ["work"]).child "pyproject.toml") = .ok false := by
    decide +kernel
  have user : garbled.probe ((Path.ofText "/home").child Settings.fileName) = .ok false := by
    decide +kernel
  have there : garbled.probe garbledFile = .ok true := by decide +kernel
  have read : Files.readFile garbled.tree garbled.cwd garbledFile.text = .ok [0xff] := by
    decide +kernel
  have decoded : Text.Utf8.decode [0xff] = .error ⟨0, [0xff], .badStart⟩ := by decide +kernel
  have source : Settings.SourceEscapes garbled (Settings.hostFile garbled garbledFile)
      (.undecodable ⟨0, [0xff], .badStart⟩) :=
    ⟨garbledFile, rfl, .undecodable there read decoded⟩
  have first : Settings.FirstFailing garbled
      ([.defaults, Settings.hostFile garbled ((Path.ofText "/home").child Settings.fileName),
        Settings.hostFile garbled garbledFile] ++ [.memory overrides name])
      (Settings.hostFile garbled garbledFile) (.undecodable ⟨0, [0xff], .badStart⟩) := by
    refine ⟨[.defaults, Settings.hostFile garbled ((Path.ofText "/home").child Settings.fileName)],
      [.memory overrides name], rfl, ?_, (Settings.source_escapes_iff rfl).mpr source⟩
    intro other member
    rcases List.mem_cons.mp member with rfl | member
    · exact ⟨_, rfl⟩
    · cases List.mem_singleton.mp member
      exact ⟨[], Settings.load_absent user⟩
  exact .loading (.mk (.home home) (.absent project) .unnamed) (.unread first source)

/-- An octet that is no text escapes from a task. Patterns beyond what can be compiled escape from the
check of values: for a repetition, and for groups inside groups. -/
theorem garbled_file_escapes :
    Task.run garbled false (.checkVersion ⟨none, [], ⟨true, true⟩⟩) =
        .error (.settings (.undecodable ⟨0, [0xff], .badStart⟩)) ∧
      (Configuration.ofEntries .usual [("blacklist", .text "a\x7b4294967296\x7d")]).mapError
        Settings.Fault.ofRefusal = .error (.excess .repetition) ∧
      (Configuration.ofEntries .usual [("blacklist", .text (Pattern.nested 500))]).mapError
        Settings.Fault.ofRefusal = .error (.excess .nesting) := by
  have exceeds {source : String} {what : Pattern.Excess} (filled : source.isEmpty = false)
      (excess : Pattern.compile Room.usual.patterns source = .error (.excess what)) :
      Configuration.Exceeds .usual [("blacklist", .text source)] what := by
    have settled : Configuration.Settled [("blacklist", .text source)]
        { Configuration.default with blacklist := source } :=
      (Configuration.check_settings_ok_iff.mp rfl).1
    exact ⟨rfl, _, settled, filled, excess⟩
  refine ⟨?_, ?_, ?_⟩
  · obtain ⟨project, _, task⟩ :=
      fault_escapes_iff garbled (.undecodable ⟨0, [0xff], .badStart⟩) .noDirectory
    have here : garbled.cwdPath = .ok ⟨.slash, ["work"]⟩ := by decide +kernel
    have resolved : garbled.resolve ⟨.slash, ["work"]⟩ = .ok ⟨.slash, ["work"]⟩ := by decide +kernel
    have escapes := ((project ⟨.slash, ["work"]⟩ none none [] overridesName).1).mpr
      ⟨⟨.slash, ["work"]⟩, resolved, garbled_project_escapes _ _⟩
    refine ((task false _).2.1).mpr ⟨?_, escapes.2⟩
    rw [Task.settings, settingsHere, here]
    exact escapes.1
  · obtain ⟨_, values, _⟩ := fault_escapes_iff garbled (.excess .repetition) .noDirectory
    have excess : Pattern.compile Room.usual.patterns "a\x7b4294967296\x7d" =
        .error (.excess .repetition) := by cbv
    exact ((values _ _).mpr (.inl ⟨.repetition, rfl, exceeds (by decide) excess⟩)).1
  · obtain ⟨_, values, _⟩ := fault_escapes_iff garbled (.excess .nesting) .noDirectory
    exact ((values _ _).mpr (.inl ⟨.nesting, rfl, exceeds (Pattern.nested_filled 499)
      (Pattern.compile_nested (by decide))⟩)).1

end PlaybookLint.CommandLine
