import PlaybookLint.Proofs.Precedence

/-!
What goes wrong while settings are loaded. Most of it is a fault of the settings, which the command
line reports with a code of its own. Here is told exactly when another fault escapes: the root of the
project has no absolute form, a file cannot be looked at, holds octets that are no text, a number of too
many digits or values inside values deeper than calls may nest, nobody knows the directory of the user,
the rules to skip are nested too deep, or the pattern for excluded files is beyond what can be compiled.
-/

namespace PlaybookLint

namespace Configuration

/-- Every setting passes its own check, but the pattern for excluded files is beyond what can be
compiled. -/
def Exceeds (room : Room) (entries : Entries) (what : Pattern.Excess) : Prop :=
  skipsTooDeep room entries = false ∧
    ∃ c, Settled entries c ∧ c.blacklist.isEmpty = false ∧
      Pattern.compile room.patterns c.blacklist = .error (.excess what)

variable {room : Room} {entries : Entries}

theorem exclusion_excess_iff {source : String} {what : Pattern.Excess} :
    exclusionOf room source = .error (.excess what) ↔
      source.isEmpty = false ∧ Pattern.compile room.patterns source = .error (.excess what) := by
  rw [exclusionOf]
  cases source.isEmpty with
  | true => simp
  | false =>
      cases Pattern.compile room.patterns source with
      | ok p => simp
      | error fault => cases fault <;> simp

theorem exclusion_not_deep (source : String) : exclusionOf room source ≠ .error .tooDeep := by
  intro deep
  rw [exclusionOf] at deep
  split at deep
  · cases deep
  · cases compiled : Pattern.compile room.patterns source with
    | ok p =>
        rw [compiled] at deep
        cases deep
    | error fault =>
        rw [compiled] at deep
        cases fault <;> cases deep

theorem of_entries_excess_iff {what : Pattern.Excess} :
    ofEntries room entries = .error (.excess what) ↔ Exceeds room entries what := by
  constructor
  · intro refused
    cases shallow : skipsTooDeep room entries with
    | true =>
        rw [of_entries_of_deep shallow] at refused
        cases refused
    | false =>
        rcases settled_or_problems shallow with ⟨c, settled⟩ | ⟨found, problems⟩
        · rw [of_entries_of_settled shallow settled] at refused
          cases compiled : exclusionOf room c.blacklist with
          | ok e =>
              rw [compiled] at refused
              cases refused
          | error refusal =>
              rw [compiled] at refused
              cases refused
              exact ⟨shallow, c, settled, exclusion_excess_iff.mp compiled⟩
        · rw [problems] at refused
          cases refused
  · rintro ⟨shallow, c, settled, excess⟩
    rw [of_entries_of_settled shallow settled, exclusion_excess_iff.mpr excess]
    rfl

/-- Nothing but the rules to skip can nest too deep when values are checked. -/
theorem of_entries_deep_iff :
    ofEntries room entries = .error .tooDeep ↔ skipsTooDeep room entries = true := by
  refine ⟨fun refused => ?_, of_entries_of_deep⟩
  cases shallow : skipsTooDeep room entries with
  | true => rfl
  | false =>
      rcases settled_or_problems shallow with ⟨c, settled⟩ | ⟨found, problems⟩
      · rw [of_entries_of_settled shallow settled] at refused
        cases compiled : exclusionOf room c.blacklist with
        | ok e =>
            rw [compiled] at refused
            cases refused
        | error refusal =>
            rw [compiled] at refused
            cases refused
            exact absurd compiled (exclusion_not_deep _)
      · rw [problems] at refused
        cases refused

end Configuration

namespace Settings

/-! ### Files -/

/-- Why nothing can be made of a file, though it may hold no wrong settings. -/
inductive FileEscapes (host : Host) (path : Path) : Fault → Prop
  | inaccessible {fault : AccessFault} (probed : host.probe path = .error fault) :
      FileEscapes host path (.inaccessible fault)
  | undecodable {octets : List UInt8} {refusal : Text.Utf8.Refusal}
      (there : host.probe path = .ok true)
      (read : Files.readFile host.tree host.cwd path.text = .ok octets)
      (decoded : Text.Utf8.decode octets = .error refusal) :
      FileEscapes host path (.undecodable refusal)
  | number {octets : List UInt8} {text : String} {refusal : Text.TooManyDigits}
      (there : host.probe path = .ok true)
      (read : Files.readFile host.tree host.cwd path.text = .ok octets)
      (decoded : Text.Utf8.decode octets = .ok text)
      (parsed : Toml.read host.room.documents text = .error (.number refusal)) :
      FileEscapes host path (.number refusal)
  | tooDeep {octets : List UInt8} {text : String}
      (there : host.probe path = .ok true)
      (read : Files.readFile host.tree host.cwd path.text = .ok octets)
      (decoded : Text.Utf8.decode octets = .ok text)
      (parsed : Toml.read host.room.documents text = .error .tooDeep) :
      FileEscapes host path .tooDeep

variable {host : Host} {path : Path} {fault : Fault}

theorem FileEscapes.foreign (escapes : FileEscapes host path fault) :
    fault.isConfiguration = false := by
  cases escapes <;> rfl

theorem document_escapes_iff (foreign : fault.isConfiguration = false) :
    Source.document? host path = .error fault ↔ FileEscapes host path fault := by
  constructor
  · intro ended
    rw [Source.document?] at ended
    cases probed : host.probe path with
    | error refused =>
        rw [probed] at ended
        cases ended
        exact .inaccessible probed
    | ok there =>
        rw [probed] at ended
        cases there with
        | false => cases ended
        | true =>
            cases read : Files.readFile host.tree host.cwd path.text with
            | error errno =>
                simp only [read] at ended
                cases ended
                cases foreign
            | ok octets =>
                simp only [read] at ended
                cases decoded : Text.Utf8.decode octets with
                | error refusal =>
                    rw [decoded] at ended
                    cases ended
                    exact .undecodable probed read decoded
                | ok text =>
                    rw [decoded] at ended
                    cases parsed : Toml.read host.room.documents text with
                    | ok entries =>
                        simp only [parsed] at ended
                        cases ended
                    | error refusal =>
                        simp only [parsed] at ended
                        cases refusal with
                        | number refusal =>
                            cases ended
                            exact .number probed read decoded parsed
                        | tooDeep =>
                            cases ended
                            exact .tooDeep probed read decoded parsed
                        | _ =>
                            cases ended
                            cases foreign
  · intro escapes
    rw [Source.document?]
    cases escapes with
    | inaccessible probed =>
        rw [probed]
        rfl
    | undecodable there read decoded =>
        rw [there]
        simp only [read, decoded]
        rfl
    | number there read decoded parsed | tooDeep there read decoded parsed =>
        rw [there]
        simp only [read, decoded, parsed]
        rfl

/-! ### Sources -/

/-- The file that a source is read from. -/
def Source.file? : Source → Option Path
  | .defaults | .memory _ _ => none
  | .file path _ _ | .section_ path _ _ => some path

/-- Nothing can be made of the file of a source. -/
def SourceEscapes (host : Host) (source : Source) (fault : Fault) : Prop :=
  ∃ path, source.file? = some path ∧ FileEscapes host path fault

/-- A source with a file makes its settings of the document in the file alone. -/
theorem load_of_file {source : Source} (read : source.file? = some path) :
    ∃ select, source.load host = (Source.document? host path).map select := by
  cases source with
  | defaults => cases read
  | memory entries name => cases read
  | file path' name lookup =>
      cases read
      refine ⟨fun document => (document.map (Environment.expandEntries lookup)).getD [], ?_⟩
      rw [Source.load]
      cases Source.document? host path with
      | error other => rfl
      | ok document => cases document <;> rfl
  | section_ path' name lookup =>
      cases read
      refine ⟨fun document => (document.map fun entries =>
        Environment.expandEntries lookup (Source.projectSection entries)).getD [], ?_⟩
      rw [Source.load]
      cases Source.document? host path with
      | error other => rfl
      | ok document => cases document <;> rfl

/-- A file that is not there mentions nothing. -/
theorem load_absent (absent : host.probe path = .ok false) :
    (hostFile host path).load host = .ok [] := by
  rw [hostFile, Source.load, Source.document?, absent]
  rfl

theorem source_escapes_iff {source : Source} (foreign : fault.isConfiguration = false) :
    source.load host = .error fault ↔ SourceEscapes host source fault := by
  cases read : source.file? with
  | some path =>
      have made : ∃ select, source.load host = (Source.document? host path).map select :=
        load_of_file read
      obtain ⟨select, made⟩ := made
      have same : source.load host = .error fault ↔ Source.document? host path = .error fault := by
        rw [made]
        cases Source.document? host path <;> simp [Except.map]
      rw [same, document_escapes_iff foreign]
      constructor
      · intro escapes
        exact ⟨path, read, escapes⟩
      · rintro ⟨path', read', escapes⟩
        cases read.symm.trans read'
        exact escapes
  | none =>
      constructor
      · intro ended
        cases source with
        | defaults => cases ended
        | memory entries name => cases ended
        | file path name lookup => cases read
        | section_ path name lookup => cases read
      · rintro ⟨path, read', _⟩
        cases read.symm.trans read'

/-- The source is the first among others that cannot be loaded. -/
def FirstFailing (host : Host) (sources : List Source) (source : Source) (fault : Fault) : Prop :=
  ∃ earlier later, sources = earlier ++ source :: later ∧
    (∀ other ∈ earlier, ∃ fragment, other.load host = .ok fragment) ∧
    source.load host = .error fault

theorem FirstFailing.failed {sources : List Source} {source : Source}
    (first : FirstFailing host sources source fault) : source.load host = .error fault := by
  obtain ⟨_, _, _, _, failed⟩ := first
  exact failed

theorem first_failing_head {source : Source} {rest : List Source}
    (failed : source.load host = .error fault) : FirstFailing host (source :: rest) source fault :=
  ⟨[], rest, rfl, fun _ member => absurd member List.not_mem_nil, failed⟩

theorem first_failing_cons_iff {source other : Source} {rest : List Source} {fragment : Entries}
    (loaded : source.load host = .ok fragment) :
    FirstFailing host (source :: rest) other fault ↔ FirstFailing host rest other fault := by
  constructor
  · rintro ⟨earlier, later, split, sound, failed⟩
    cases earlier with
    | nil =>
        obtain ⟨rfl, rfl⟩ := List.cons.inj split
        cases loaded.symm.trans failed
    | cons first before =>
        obtain ⟨rfl, rfl⟩ := List.cons.inj split
        exact ⟨before, later, rfl, fun s member => sound s (List.mem_cons_of_mem _ member), failed⟩
  · rintro ⟨earlier, later, rfl, sound, failed⟩
    refine ⟨source :: earlier, later, rfl, ?_, failed⟩
    intro s member
    rcases List.mem_cons.mp member with rfl | among
    · exact ⟨fragment, loaded⟩
    · exact sound s among

theorem merge_error_iff {sources : List Source} {merged : Entries} :
    (merge host sources merged).2 = .error fault ↔
      ∃ source, FirstFailing host sources source fault := by
  induction sources generalizing merged with
  | nil =>
      constructor
      · intro ended
        cases ended
      · rintro ⟨source, earlier, later, split, _⟩
        cases earlier <;> cases split
  | cons source rest ih =>
      cases loaded : source.load host with
      | error other =>
          simp only [merge, loaded]
          constructor
          · intro ended
            cases ended
            exact ⟨source, first_failing_head loaded⟩
          · rintro ⟨first, earlier, later, split, sound, failed⟩
            cases earlier with
            | nil =>
                obtain ⟨rfl, _⟩ := List.cons.inj split
                cases loaded.symm.trans failed
                rfl
            | cons before _ =>
                obtain ⟨rfl, _⟩ := List.cons.inj split
                obtain ⟨fragment, loaded'⟩ := sound source List.mem_cons_self
                cases loaded.symm.trans loaded'
      | ok fragment =>
          simp only [merge, loaded, first_failing_cons_iff loaded]
          exact ih

/-- Loading sources ends in a fault that is not one of the settings. -/
inductive Escapes (host : Host) (sources : List Source) : Fault → Prop
  | unread {source : Source} {fault : Fault}
      (first : FirstFailing host sources source fault)
      (escapes : SourceEscapes host source fault) : Escapes host sources fault
  | excess {merged : Entries} {what : Pattern.Excess}
      (done : (merge host sources []).2 = .ok merged)
      (exceeds : Configuration.Exceeds host.room merged what) : Escapes host sources (.excess what)
  | deep {merged : Entries}
      (done : (merge host sources []).2 = .ok merged)
      (deep : Configuration.skipsTooDeep host.room merged = true) : Escapes host sources .tooDeep

theorem Escapes.foreign {sources : List Source} (escapes : Escapes host sources fault) :
    fault.isConfiguration = false := by
  cases escapes with
  | unread first escapes =>
      obtain ⟨path, _, escapes⟩ := escapes
      exact escapes.foreign
  | excess | deep => rfl

theorem load_eq (sources : List Source) :
    (load host sources).2 = (merge host sources []).2.bind fun entries =>
      (Configuration.ofEntries host.room entries).mapError Fault.ofRefusal := rfl

theorem load_escapes_iff {sources : List Source} (foreign : fault.isConfiguration = false) :
    (load host sources).2 = .error fault ↔ Escapes host sources fault := by
  rw [load_eq]
  constructor
  · intro ended
    cases done : (merge host sources []).2 with
    | error other =>
        rw [done] at ended
        cases ended
        obtain ⟨source, first⟩ := merge_error_iff.mp done
        exact .unread first ((source_escapes_iff foreign).mp first.failed)
    | ok merged =>
        rw [done] at ended
        cases built : Configuration.ofEntries host.room merged with
        | ok c =>
            simp only [Except.bind, built] at ended
            cases ended
        | error refusal =>
            simp only [Except.bind, built] at ended
            cases refusal with
            | problems found =>
                cases ended
                cases foreign
            | excess what =>
                cases ended
                exact .excess done (Configuration.of_entries_excess_iff.mp built)
            | tooDeep =>
                cases ended
                exact .deep done (Configuration.of_entries_deep_iff.mp built)
  · intro escapes
    cases escapes with
    | unread first _ =>
        rw [merge_error_iff.mpr ⟨_, first⟩]
        rfl
    | excess done exceeds =>
        rw [done]
        simp only [Except.bind, Configuration.of_entries_excess_iff.mpr exceeds]
        rfl
    | deep done deep =>
        rw [done]
        simp only [Except.bind, Configuration.of_entries_deep_iff.mpr deep]
        rfl

/-! ### Projects -/

/-- The sources for a project cannot even be listed. -/
inductive Unlisted (host : Host) (root : Path) : Option Path → Option Path → Fault → Prop
  | homeless {explicit : Option Path} (unknown : host.home? = none) :
      Unlisted host root none explicit .homeless
  | project {user explicit : Option Path} {file : Path} {fault : AccessFault}
      (known : UserFile host user file)
      (probed : host.probe (root.child "pyproject.toml") = .error fault) :
      Unlisted host root user explicit (.inaccessible fault)
  | named {user : Option Path} {file path : Path} {sections : List Source} {fault : AccessFault}
      (known : UserFile host user file)
      (project : SectionSources host (root.child "pyproject.toml") sections)
      (probed : host.probe path = .error fault) :
      Unlisted host root user (some path) (.inaccessible fault)

variable {root : Path} {user explicit : Option Path}

theorem project_sources_error_iff {project : Path} :
    projectSources host project = .error fault ↔
      ∃ refused, host.probe project = .error refused ∧ fault = .inaccessible refused := by
  rw [projectSources, isThere]
  cases host.probe project with
  | error refused =>
      constructor
      · intro ended
        cases ended
        exact ⟨refused, rfl, rfl⟩
      · rintro ⟨_, same, rfl⟩
        cases same
        rfl
  | ok there =>
      constructor
      · intro ended
        cases there <;> cases ended
      · rintro ⟨_, same, _⟩
        cases same

theorem explicit_sources_error_iff (foreign : fault.isConfiguration = false) :
    explicitSources host explicit = .error fault ↔ ∃ path refused, explicit = some path ∧
      host.probe path = .error refused ∧ fault = .inaccessible refused := by
  cases explicit with
  | none =>
      constructor
      · intro ended
        cases ended
      · rintro ⟨_, _, named, _⟩
        cases named
  | some path =>
      rw [explicitSources, isThere]
      constructor
      · intro ended
        cases probed : host.probe path with
        | error refused =>
            rw [probed] at ended
            cases ended
            exact ⟨path, refused, rfl, probed, rfl⟩
        | ok there =>
            rw [probed] at ended
            cases there with
            | true => cases ended
            | false =>
                cases ended
                cases foreign
      · rintro ⟨_, refused, named, probed, rfl⟩
        cases named
        rw [probed]
        rfl

theorem sources_for_escapes_iff (foreign : fault.isConfiguration = false) :
    sourcesFor host root user explicit = .error fault ↔ Unlisted host root user explicit fault := by
  constructor
  · intro ended
    rcases user_file_or_homeless host user with ⟨file, known⟩ | ⟨rfl, unknown⟩
    · rw [sources_for_of_user known] at ended
      cases sectioned : projectSources host (root.child "pyproject.toml") with
      | error other =>
          rw [sectioned] at ended
          cases ended
          obtain ⟨refused, probed, rfl⟩ := project_sources_error_iff.mp sectioned
          exact .project known probed
      | ok sections =>
          cases extended : explicitSources host explicit with
          | error other =>
              rw [sectioned, extended] at ended
              cases ended
              obtain ⟨path, refused, rfl, probed, rfl⟩ :=
                (explicit_sources_error_iff foreign).mp extended
              exact .named known (project_sources_ok_iff.mp sectioned) probed
          | ok extra =>
              rw [sectioned, extended] at ended
              cases ended
    · simp only [sourcesFor, unknown] at ended
      cases ended
      exact .homeless unknown
  · intro unlisted
    cases unlisted with
    | homeless unknown =>
        simp only [sourcesFor, unknown]
        rfl
    | project known probed =>
        rw [sources_for_of_user known, project_sources_error_iff.mpr ⟨_, probed, rfl⟩]
        rfl
    | named known project probed =>
        rw [sources_for_of_user known, project_sources_ok_iff.mpr project,
          (explicit_sources_error_iff foreign).mpr ⟨_, _, rfl, probed, rfl⟩]
        rfl

/-- Loads the settings of the project at a path, with values held in memory on top. -/
def loadProject (host : Host) (root : Path) (user explicit : Option Path) (overrides : Entries)
    (name : String) : Except Files.ResolveFault (Except Fault Configuration) := do
  let absolute ← host.resolve root
  return do
    let sources ← sourcesFor host absolute user explicit
    (load host (sources ++ [.memory overrides name])).2

/-- Loading the settings of a project ends in a fault that is not one of the settings. -/
inductive ProjectEscapes (host : Host) (root : Path) (user explicit : Option Path)
    (overrides : Entries) (name : String) : Fault → Prop
  | unlisted {fault : Fault} (unlisted : Unlisted host root user explicit fault) :
      ProjectEscapes host root user explicit overrides name fault
  | loading {sources : List Source} {fault : Fault}
      (listed : InOrder host root user explicit sources)
      (escapes : Escapes host (sources ++ [.memory overrides name]) fault) :
      ProjectEscapes host root user explicit overrides name fault

theorem ProjectEscapes.foreign {overrides : Entries} {name : String}
    (escapes : ProjectEscapes host root user explicit overrides name fault) :
    fault.isConfiguration = false := by
  cases escapes with
  | unlisted unlisted => cases unlisted <;> rfl
  | loading _ escapes => exact escapes.foreign

theorem load_project_escapes_iff {overrides : Entries} {name : String}
    (foreign : fault.isConfiguration = false) :
    loadProject host root user explicit overrides name = .ok (.error fault) ↔
      ∃ absolute, host.resolve root = .ok absolute ∧
        ProjectEscapes host absolute user explicit overrides name fault := by
  rw [loadProject]
  cases resolved : host.resolve root with
  | error refused =>
      constructor
      · intro ended
        cases ended
      · rintro ⟨_, same, _⟩
        cases same
  | ok absolute =>
      constructor
      · intro ended
        refine ⟨absolute, rfl, ?_⟩
        have ended := Except.ok.inj ended
        cases listed : sourcesFor host absolute user explicit with
        | error other =>
            rw [listed] at ended
            cases ended
            exact .unlisted ((sources_for_escapes_iff foreign).mp listed)
        | ok sources =>
            rw [listed] at ended
            exact .loading (sources_for_ok_iff.mp listed) ((load_escapes_iff foreign).mp ended)
      · rintro ⟨_, same, escapes⟩
        cases same
        refine congrArg Except.ok ?_
        cases escapes with
        | unlisted unlisted =>
            rw [(sources_for_escapes_iff foreign).mpr unlisted]
            rfl
        | loading listed escapes =>
            rw [sources_for_ok_iff.mpr listed]
            exact (load_escapes_iff foreign).mpr escapes

end Settings

end PlaybookLint
