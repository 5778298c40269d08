import PlaybookLint.Proofs.Checks
import PlaybookLint.Proofs.Entries

/-!
Layers of settings: the last source that mentions a setting decides on it. What the sources before it
say of the setting, right or wrong, what they say of other settings, and sources that do not mention it
make no difference.
-/

namespace PlaybookLint.Settings

/-! ### What a source mentions -/

/-- One of the entries is for the setting. -/
def Mentions (s : Setting) (fragment : Entries) : Prop := ∃ entry ∈ fragment, s.Spells entry.1

/-- The value is that of the last entry for the setting. -/
def LastIn (s : Setting) (fragment : Entries) (d : Datum) : Prop :=
  ∃ before key after, fragment = before ++ (key, d) :: after ∧ s.Spells key ∧ ¬Mentions s after

/-- None of the sources mentions the setting. -/
def Unmentioned (host : Host) (s : Setting) (sources : List Source) : Prop :=
  ∀ source ∈ sources, ∀ fragment, source.load host = .ok fragment → ¬Mentions s fragment

/-- The value is given for the setting by the last source that mentions it. -/
inductive GivenLast (host : Host) (s : Setting) : List Source → Datum → Prop
  | here {source : Source} {rest : List Source} {fragment : Entries} {d : Datum}
      (loaded : source.load host = .ok fragment) (last : LastIn s fragment d)
      (unmentioned : Unmentioned host s rest) : GivenLast host s (source :: rest) d
  | later {source : Source} {rest : List Source} {d : Datum} (given : GivenLast host s rest d) :
      GivenLast host s (source :: rest) d

/-! ### Fragments under the settings' own names -/

/-- The entries of a fragment under the names that their keys stand for. -/
def renamed (fragment : Entries) : Entries :=
  fragment.map fun (key, value) => (Setting.canonicalKey key, value)

theorem value_canonical (fragment : Entries) (key : String) :
    (canonical fragment).value? key = (renamed fragment).value? key := by
  have merged := Entries.value_put_all [] (renamed fragment) key
  rw [Entries.value?, Option.or_none] at merged
  exact merged

theorem value_canonical_eq_none {fragment : Entries} {key : String}
    (absent : ∀ entry ∈ fragment, Setting.canonicalKey entry.1 ≠ key) :
    (canonical fragment).value? key = none := by
  rw [value_canonical, Entries.value_eq_none_iff]
  intro entry member
  obtain ⟨original, among, same⟩ := List.mem_map.mp member
  rw [← same]
  exact absent original among

theorem canonical_keys_differ_iff {s : Setting} {fragment : Entries} :
    (∀ entry ∈ fragment, Setting.canonicalKey entry.1 ≠ s.name) ↔ ¬Mentions s fragment := by
  simp only [Mentions, ne_eq, Setting.canonical_key_eq_name_iff, not_exists, not_and]

theorem value_canonical_eq_some_iff {s : Setting} {fragment : Entries} {d : Datum} :
    (canonical fragment).value? s.name = some d ↔ LastIn s fragment d := by
  rw [value_canonical, Entries.value_eq_some_iff]
  constructor
  · rintro ⟨before, after, split, others⟩
    obtain ⟨before', rest, whole, _, tail⟩ := List.map_eq_append_iff.mp split
    obtain ⟨entry, after', cons, same, last⟩ := List.map_eq_cons_iff.mp tail
    obtain ⟨key, value⟩ := entry
    obtain ⟨named, rfl⟩ := Prod.mk.inj same
    refine ⟨before', key, after', by rw [whole, cons],
      (Setting.canonical_key_eq_name_iff s key).mp named, ?_⟩
    rw [← canonical_keys_differ_iff]
    intro entry member
    rw [← last] at others
    exact others _ (List.mem_map_of_mem member)
  · rintro ⟨before, key, after, whole, spells, unmentioned⟩
    refine ⟨renamed before, renamed after, ?_, ?_⟩
    · simp only [whole, renamed, List.map_append, List.map_cons,
        (Setting.canonical_key_eq_name_iff s key).mpr spells]
    · intro entry member
      obtain ⟨original, among, same⟩ := List.mem_map.mp member
      rw [← same]
      exact canonical_keys_differ_iff.mpr unmentioned original among

/-- A fragment that mentions a setting has a last entry for it. -/
theorem exists_last_of_mentions {s : Setting} {fragment : Entries} (mentions : Mentions s fragment) :
    ∃ d, LastIn s fragment d := by
  cases found : (canonical fragment).value? s.name with
  | some d => exact ⟨d, value_canonical_eq_some_iff.mp found⟩
  | none =>
      rw [value_canonical, Entries.value_eq_none_iff] at found
      obtain ⟨entry, member, spells⟩ := mentions
      exact absurd ((Setting.canonical_key_eq_name_iff s entry.1).mpr spells)
        (found _ (List.mem_map_of_mem member))

/-! ### Merging -/

section Merging

variable {host : Host} {sources : List Source} {merged result : Entries} {log : List LogRecord}

/-- One more source: it is loaded, and what it mentions is put on top before the others are. -/
theorem merge_cons {source : Source}
    (done : merge host (source :: sources) merged = (log, .ok result)) :
    ∃ fragment log', source.load host = .ok fragment ∧
      merge host sources (merged.putAll (canonical fragment)) = (log', .ok result) := by
  rw [merge] at done
  cases loaded : source.load host with
  | error fault =>
      rw [loaded] at done
      cases done
  | ok fragment =>
      rw [loaded] at done
      cases next : merge host sources (merged.putAll (canonical fragment)) with
      | mk log' outcome =>
          simp only [next] at done
          obtain ⟨_, ended⟩ := Prod.mk.inj done
          exact ⟨fragment, log', rfl, by rw [next, ended]⟩

/-- A name that no key of the sources stands for keeps the value that it has. -/
theorem value_merge_unnamed {key : String} (done : merge host sources merged = (log, .ok result))
    (unnamed : ∀ source ∈ sources, ∀ fragment, source.load host = .ok fragment →
      ∀ entry ∈ fragment, Setting.canonicalKey entry.1 ≠ key) :
    result.value? key = merged.value? key := by
  induction sources generalizing merged log with
  | nil =>
      cases done
      rfl
  | cons source rest ih =>
      obtain ⟨fragment, log', loaded, next⟩ := merge_cons done
      have absent := value_canonical_eq_none (unnamed source List.mem_cons_self fragment loaded)
      rw [ih next fun other member => unnamed other (List.mem_cons_of_mem source member),
        Entries.value_put_all, absent, Option.none_or]

theorem value_merge_unmentioned {s : Setting} (done : merge host sources merged = (log, .ok result))
    (unmentioned : Unmentioned host s sources) :
    result.value? s.name = merged.value? s.name :=
  value_merge_unnamed done fun source member fragment loaded =>
    canonical_keys_differ_iff.mpr (unmentioned source member fragment loaded)

/-- Merging leads to the value that the last source gives. -/
theorem value_merge_given {s : Setting} {d : Datum} (given : GivenLast host s sources d)
    (done : merge host sources merged = (log, .ok result)) : result.value? s.name = some d := by
  induction given generalizing merged log with
  | here loaded last unmentioned =>
      obtain ⟨fragment, log', loaded', next⟩ := merge_cons done
      cases loaded.symm.trans loaded'
      rw [value_merge_unmentioned next unmentioned, Entries.value_put_all,
        value_canonical_eq_some_iff.mpr last, Option.some_or]
  | later _ ih =>
      obtain ⟨fragment, log', _, next⟩ := merge_cons done
      exact ih next

/-- A setting is mentioned by a last source, or by none. -/
theorem given_last_or_unmentioned (s : Setting)
    (done : merge host sources merged = (log, .ok result)) :
    (∃ d, GivenLast host s sources d) ∨ Unmentioned host s sources := by
  induction sources generalizing merged log with
  | nil => exact .inr fun source member => absurd member List.not_mem_nil
  | cons source rest ih =>
      obtain ⟨fragment, log', loaded, next⟩ := merge_cons done
      rcases ih next with ⟨d, given⟩ | unmentioned
      · exact .inl ⟨d, .later given⟩
      · by_cases mentions : Mentions s fragment
        · obtain ⟨d, last⟩ := exists_last_of_mentions mentions
          exact .inl ⟨d, .here loaded last unmentioned⟩
        · refine .inr ?_
          intro other member fragment' loaded'
          rcases List.mem_cons.mp member with rfl | among
          · cases loaded.symm.trans loaded'
            exact mentions
          · exact unmentioned other among fragment' loaded'

/-- After merging, nothing stands under a name that only editors use. -/
theorem value_merge_host_name {s : Setting} (other : s.hostName ≠ s.name)
    (done : merge host sources [] = (log, .ok result)) : result.value? s.hostName = none := by
  have kept : result.value? s.hostName = Entries.value? [] s.hostName :=
    value_merge_unnamed done
      fun _ _ _ _ _ _ same => other (Setting.eq_of_canonical_key_eq_host_name same)
  exact kept

theorem given_of_value {s : Setting} {d : Datum} (found : result.value? s.name = some d) :
    s.given? result = some (s.name, d) := by
  rw [Setting.given?, found]

theorem given_merge_unmentioned {s : Setting} (done : merge host sources [] = (log, .ok result))
    (unmentioned : Unmentioned host s sources) : s.given? result = none := by
  have absent : result.value? s.name = none := value_merge_unmentioned done unmentioned
  rw [Setting.given?, absent]
  by_cases same : s.hostName = s.name
  · rw [same, absent]
    rfl
  · rw [value_merge_host_name same done]
    rfl

/-- Taking values that are null out of a source in memory changes nothing. -/
theorem merge_without_nulls (entries : Entries) (name : String) (earlier later : List Source)
    (merged : Entries) :
    merge host (earlier ++ .memory (entries.filter (!·.2.isNull)) name :: later) merged =
      merge host (earlier ++ .memory entries name :: later) merged := by
  induction earlier generalizing merged with
  | nil =>
      simp only [List.nil_append, merge, Source.load, List.filter_filter, Bool.and_self]
      rfl
  | cons source rest ih =>
      simp only [List.cons_append, merge, ih]

end Merging

/-! ### The sources for a project -/

/-- The user's file: the one that is named, or else the one in the directory of the user. -/
inductive UserFile (host : Host) : Option Path → Path → Prop
  | named (path : Path) : UserFile host (some path) path
  | home {directory : Path} (known : host.home? = some directory) :
      UserFile host none (directory.child fileName)

/-- The section of the project's own file is a source if that file is there. -/
inductive SectionSources (host : Host) (project : Path) : List Source → Prop
  | present (there : host.probe project = .ok true) :
      SectionSources host project [.section_ project project.text host.envValue?]
  | absent (missing : host.probe project = .ok false) : SectionSources host project []

/-- A file named explicitly is a source, and has to be there. -/
inductive ExplicitSources (host : Host) : Option Path → List Source → Prop
  | unnamed : ExplicitSources host none []
  | present {path : Path} (there : host.probe path = .ok true) :
      ExplicitSources host (some path) [hostFile host path]

/-- The sources for a project in the order of their weight: defaults, the user's file, the section of
the project's file, the project's file of settings, a file named explicitly. -/
inductive InOrder (host : Host) (root : Path) (user explicit : Option Path) : List Source → Prop
  | mk {file : Path} {sections extra : List Source} (known : UserFile host user file)
      (project : SectionSources host (root.child "pyproject.toml") sections)
      (named : ExplicitSources host explicit extra) :
      InOrder host root user explicit
        ([.defaults, hostFile host file] ++ sections ++ [hostFile host (root.child fileName)]
          ++ extra)

section Project

variable {host : Host} {project root : Path} {user explicit : Option Path}

theorem project_sources_ok_iff {sections : List Source} :
    projectSources host project = .ok sections ↔ SectionSources host project sections := by
  rw [projectSources, isThere]
  constructor
  · intro found
    obtain ⟨there, asked, found⟩ := Outcome.bind_ok found
    have probed := Outcome.map_error_ok asked
    cases there with
    | true =>
        cases found
        exact .present probed
    | false =>
        cases found
        exact .absent probed
  · intro found
    cases found with
    | present there =>
        rw [there]
        rfl
    | absent missing =>
        rw [missing]
        rfl

theorem explicit_sources_ok_iff {extra : List Source} :
    explicitSources host explicit = .ok extra ↔ ExplicitSources host explicit extra := by
  constructor
  · intro found
    cases explicit with
    | none =>
        cases found
        exact .unnamed
    | some path =>
        rw [explicitSources, isThere] at found
        obtain ⟨there, asked, found⟩ := Outcome.bind_ok found
        have probed := Outcome.map_error_ok asked
        cases there with
        | true =>
            cases found
            exact .present probed
        | false => cases found
  · intro found
    cases found with
    | unnamed => rfl
    | present there =>
        rw [explicitSources, isThere, there]
        rfl

/-- The sources once the user's file is known. -/
theorem sources_for_of_user {file : Path} (known : UserFile host user file) :
    sourcesFor host root user explicit = do
      let sections ← projectSources host (root.child "pyproject.toml")
      let extra ← explicitSources host explicit
      return [.defaults, hostFile host file] ++ sections ++ [hostFile host (root.child fileName)]
        ++ extra := by
  cases known with
  | named => rfl
  | home known =>
      simp only [sourcesFor, known]
      rfl

theorem user_file_or_homeless (host : Host) (user : Option Path) :
    (∃ file, UserFile host user file) ∨ user = none ∧ host.home? = none := by
  cases user with
  | some path => exact .inl ⟨path, .named path⟩
  | none =>
      cases known : host.home? with
      | some directory => exact .inl ⟨directory.child fileName, .home known⟩
      | none => exact .inr ⟨rfl, rfl⟩

/-- The sources for a project are those in the order of their weight. -/
theorem sources_for_ok_iff {sources : List Source} :
    sourcesFor host root user explicit = .ok sources ↔ InOrder host root user explicit sources := by
  constructor
  · intro found
    rcases user_file_or_homeless host user with ⟨file, known⟩ | ⟨rfl, unknown⟩
    · rw [sources_for_of_user known] at found
      obtain ⟨sections, sectioned, found⟩ := Outcome.bind_ok found
      obtain ⟨extra, extended, same⟩ := Outcome.bind_ok found
      cases same
      exact .mk known (project_sources_ok_iff.mp sectioned) (explicit_sources_ok_iff.mp extended)
    · simp only [sourcesFor, unknown] at found
      cases found
  · rintro ⟨known, project, named⟩
    rw [sources_for_of_user known, project_sources_ok_iff.mpr project,
      explicit_sources_ok_iff.mpr named]
    rfl

end Project

/-! ### The last writer -/

/-- Loading is merging and then checking once. -/
theorem load_ok {host : Host} {sources : List Source} {log : List LogRecord} {c : Configuration}
    (loaded : load host sources = (log, .ok c)) :
    ∃ merged, merge host sources [] = (log, .ok merged) ∧
      Configuration.ofEntries host.room merged = .ok c := by
  rw [load] at loaded
  cases done : merge host sources [] with
  | mk log' outcome =>
      simp only [done] at loaded
      obtain ⟨same, ended⟩ := Prod.mk.inj loaded
      obtain ⟨merged, came, accepted⟩ := Outcome.bind_ok ended
      exact ⟨merged, by rw [same, came], Outcome.map_error_ok accepted⟩

/-- What is given alone under a setting's own name is given for that setting and no other. -/
theorem given_alone (s : Setting) (d : Datum) (t : Setting) :
    t.given? [(s.name, d)] = if s = t then some (s.name, d) else none := by
  by_cases same : s = t
  · subst same
    rw [if_pos rfl]
    exact given_of_value (by rw [Entries.value_cons, if_pos rfl]; rfl)
  · have name : s.name ≠ t.name := fun named => same (Setting.name_injective named)
    have host : s.name ≠ t.hostName := fun named => same (Setting.eq_of_name_eq_host_name named)
    rw [if_neg same, Setting.given?, Entries.value_cons, if_neg name, Entries.value_cons,
      if_neg host]
    rfl

/-- A setting has the value that the last source to mention it gives. -/
theorem shares_given {host : Host} {sources : List Source} {log : List LogRecord} {c : Configuration}
    {s : Setting} {d : Datum} (loaded : load host sources = (log, .ok c))
    (given : GivenLast host s sources d) :
    ∃ alone, Configuration.ofEntries host.room [(s.name, d)] = .ok alone ∧
      Configuration.Shares s c alone := by
  obtain ⟨merged, done, accepted⟩ := load_ok loaded
  have among := given_of_value (value_merge_given given done)
  have accepted' := Configuration.of_entries_only accepted among (given_alone s d)
  refine ⟨_, accepted', Configuration.shares_of_given_eq accepted accepted' ?_⟩
  rw [among, given_alone, if_pos rfl]

/-- A setting that no source mentions has its default. -/
theorem shares_default {host : Host} {sources : List Source} {log : List LogRecord}
    {c : Configuration} {s : Setting} (loaded : load host sources = (log, .ok c))
    (unmentioned : Unmentioned host s sources) : Configuration.Shares s c .default := by
  obtain ⟨merged, done, accepted⟩ := load_ok loaded
  have plain : Configuration.ofEntries host.room [] = .ok .default := rfl
  refine Configuration.shares_of_given_eq accepted plain ?_
  rw [given_merge_unmentioned done unmentioned]
  cases s <;> rfl

/-- Two ways to settings that end in the same value for a setting lead to the same, whatever else their
sources hold. -/
theorem shares_of_same_last {host host' : Host} {sources sources' : List Source}
    {log log' : List LogRecord} {c c' : Configuration} {s : Setting}
    (loaded : load host sources = (log, .ok c)) (loaded' : load host' sources' = (log', .ok c'))
    (same : ∀ d, GivenLast host s sources d ↔ GivenLast host' s sources' d) :
    Configuration.Shares s c c' := by
  obtain ⟨merged, done, accepted⟩ := load_ok loaded
  obtain ⟨merged', done', accepted'⟩ := load_ok loaded'
  refine Configuration.shares_of_given_eq accepted accepted' ?_
  rcases given_last_or_unmentioned s done with ⟨d, given⟩ | unmentioned
  · rw [given_of_value (value_merge_given given done),
      given_of_value (value_merge_given ((same d).mp given) done')]
  · rcases given_last_or_unmentioned s done' with ⟨d, given⟩ | unmentioned'
    · have found := given_of_value (value_merge_given ((same d).mpr given) done)
      rw [given_merge_unmentioned done unmentioned] at found
      cases found
    · rw [given_merge_unmentioned done unmentioned, given_merge_unmentioned done' unmentioned']

/-- The last writer wins, for every setting on its own. The value of a setting is what is made, alone,
of the value that the last source to mention it gives; where none mentions it, it is the default.
Nothing else that the sources hold makes a difference, and null values of a source in memory count as
not mentioned. For a project, the sources come in the order of their weight. -/
theorem load_last_writer_wins {host : Host} {sources : List Source} {log : List LogRecord}
    {c : Configuration} (loaded : load host sources = (log, .ok c)) (s : Setting) :
    (∀ d, GivenLast host s sources d → ∃ alone,
      Configuration.ofEntries host.room [(s.name, d)] = .ok alone ∧
        Configuration.Shares s c alone) ∧
    (Unmentioned host s sources → Configuration.Shares s c .default) ∧
    ((∃ d, GivenLast host s sources d) ∨ Unmentioned host s sources) ∧
    (∀ host' sources' log' c', load host' sources' = (log', .ok c') →
      (∀ d, GivenLast host s sources d ↔ GivenLast host' s sources' d) →
        Configuration.Shares s c c') ∧
    (∀ earlier entries name later, sources = earlier ++ .memory entries name :: later →
      load host (earlier ++ .memory (entries.filter (!·.2.isNull)) name :: later) = (log, .ok c)) ∧
    ∀ root user explicit project, sourcesFor host root user explicit = .ok project →
      InOrder host root user explicit project := by
  refine ⟨fun d => shares_given loaded, shares_default loaded, ?_,
    fun _ _ _ _ => shares_of_same_last loaded, ?_, fun _ _ _ _ => sources_for_ok_iff.mp⟩
  · obtain ⟨merged, done, _⟩ := load_ok loaded
    exact given_last_or_unmentioned s done
  · intro earlier entries name later same
    rw [← loaded, same, load, load, merge_without_nulls]

/-- Four sources: one gives a number where a text is needed, the next puts that right, and the last
mentions nothing that counts. -/
def layered : List Source :=
  [.defaults, .memory [("rule_skips", .integer 5)] "user",
    .memory [("ruleSkips", .text "E301"), ("rule-skips", .text "E502")] "editor",
    .memory [("rule_skips", .null), ("skips", .integer 1)] "command line"]

theorem layered_last_writer_wins :
    ∃ log c alone, load (.plain [] [] []) layered = (log, .ok c) ∧
      GivenLast (.plain [] [] []) .ruleSkips layered (.text "E502") ∧
      Configuration.ofEntries .usual [("rule_skips", .text "E502")] = .ok alone ∧
      c.ruleSkips = alone.ruleSkips := by
  have loaded : load (.plain [] [] []) layered =
      (_, .ok { Configuration.default with ruleSkips := "E502" }) := rfl
  have given : GivenLast (.plain [] [] []) .ruleSkips layered (.text "E502") := by
    refine .later (.later (.here rfl ⟨[("ruleSkips", .text "E301")], "rule-skips", [], rfl, ?_, ?_⟩
      ?_))
    · rw [← Setting.canonical_key_eq_name_iff]
      decide +kernel
    · rintro ⟨entry, member, _⟩
      cases member
    · intro source member fragment read
      cases List.mem_singleton.mp member
      cases read
      rw [← canonical_keys_differ_iff]
      decide +kernel
  obtain ⟨alone, accepted, same⟩ := (load_last_writer_wins loaded .ruleSkips).1 _ given
  exact ⟨_, _, alone, loaded, given, accepted, same⟩

end PlaybookLint.Settings
