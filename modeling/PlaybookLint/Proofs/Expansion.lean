import PlaybookLint.Proofs.Precedence

/-!
Expansion of references and the names of settings. Only the text for excluded files is left as it is
written, and it has no other spelling; so it makes no difference whether references are expanded before
or after the keys are put under the settings' own names, and every other setting is expanded under each
of its spellings.
-/

namespace PlaybookLint

namespace Entries

/-! ### Changing the values of a table -/

/-- The entries with their values changed, each by its key. -/
def revise (f : String → Datum → Datum) (entries : Entries) : Entries :=
  entries.map fun (key, value) => (key, f key value)

def keys (entries : Entries) : List String := entries.map (·.1)

variable (f : String → Datum → Datum)

theorem has_iff (entries : Entries) (key : String) : entries.has key = true ↔ key ∈ entries.keys := by
  simp only [has, keys, List.any_eq_true, beq_iff_eq, List.mem_map]

theorem keys_revise (entries : Entries) : (entries.revise f).keys = entries.keys := by
  rw [keys, revise, List.map_map]
  rfl

theorem has_revise (entries : Entries) (key : String) :
    (entries.revise f).has key = entries.has key := by
  rw [Bool.eq_iff_iff, has_iff, has_iff, keys_revise]

theorem put_revise (entries : Entries) (key : String) (value : Datum) :
    (entries.revise f).put key (f key value) = (entries.put key value).revise f := by
  rw [put, put, has_revise]
  split
  · rw [revise, revise, List.map_map, List.map_map]
    refine List.map_congr_left fun entry _ => ?_
    obtain ⟨k, v⟩ := entry
    by_cases same : k = key
    · simp only [Function.comp_apply, same, beq_self_eq_true, if_true]
    · simp only [Function.comp_apply, beq_eq_false_iff_ne.mpr same, Bool.false_eq_true, if_false]
  · rw [revise, revise, List.map_append]
    rfl

/-- Values may be changed before or after entries are put into a table. -/
theorem put_all_revise (entries later : Entries) :
    (entries.revise f).putAll (later.revise f) = (entries.putAll later).revise f := by
  induction later generalizing entries with
  | nil => rfl
  | cons entry rest ih =>
      obtain ⟨key, value⟩ := entry
      have next : (entries.revise f).putAll (revise f ((key, value) :: rest)) =
          ((entries.revise f).put key (f key value)).putAll (revise f rest) := rfl
      rw [next, put_revise, ih]
      rfl

/-! ### The keys of a table -/

theorem keys_put_of_mem {entries : Entries} {key : String} (member : key ∈ entries.keys)
    (value : Datum) : (entries.put key value).keys = entries.keys := by
  rw [put, if_pos ((has_iff entries key).mpr member), keys, List.map_map]
  refine List.map_congr_left fun entry _ => ?_
  obtain ⟨k, v⟩ := entry
  by_cases same : k = key
  · simp only [Function.comp_apply, same, beq_self_eq_true, if_true]
  · simp only [Function.comp_apply, beq_eq_false_iff_ne.mpr same, Bool.false_eq_true, if_false]

theorem put_of_not_mem {entries : Entries} {key : String} (absent : key ∉ entries.keys)
    (value : Datum) : entries.put key value = entries ++ [(key, value)] := by
  rw [put, if_neg]
  rw [has_iff]
  exact absent

theorem mem_keys_put_iff (entries : Entries) (k key : String) (value : Datum) :
    k ∈ (entries.put key value).keys ↔ k ∈ entries.keys ∨ k = key := by
  by_cases member : key ∈ entries.keys
  · rw [keys_put_of_mem member]
    exact ⟨.inl, fun found => found.elim id fun same => same ▸ member⟩
  · rw [put_of_not_mem member, keys, List.map_append, List.mem_append]
    simp only [List.map_cons, List.map_nil, List.mem_singleton]
    rfl

theorem nodup_keys_put {entries : Entries} (distinct : entries.keys.Nodup) (key : String)
    (value : Datum) : (entries.put key value).keys.Nodup := by
  by_cases member : key ∈ entries.keys
  · rw [keys_put_of_mem member]
    exact distinct
  · rw [put_of_not_mem member, keys, List.map_append]
    refine List.nodup_append.mpr ⟨distinct, List.pairwise_singleton _ key, ?_⟩
    intro k before k' new same
    have here : k = key := same.trans (List.mem_singleton.mp new)
    exact member (here ▸ before)

theorem mem_keys_put_all {entries later : Entries} {key : String}
    (member : key ∈ (entries.putAll later).keys) : key ∈ entries.keys ∨ key ∈ later.keys := by
  induction later generalizing entries with
  | nil => exact .inl member
  | cons entry rest ih =>
      obtain ⟨k, v⟩ := entry
      have onward : key ∈ ((entries.put k v).putAll rest).keys := member
      rcases ih onward with put | later
      · rcases (mem_keys_put_iff entries key k v).mp put with before | same
        · exact .inl before
        · exact .inr (same ▸ List.mem_cons_self)
      · exact .inr (List.mem_cons_of_mem k later)

theorem nodup_keys_put_all {entries : Entries} (distinct : entries.keys.Nodup) (later : Entries) :
    (entries.putAll later).keys.Nodup := by
  induction later generalizing entries with
  | nil => exact distinct
  | cons entry rest ih => exact ih (nodup_keys_put distinct entry.1 entry.2)

/-- Entries whose keys are all new and distinct are put at the end as they are. -/
theorem put_all_of_nodup {entries later : Entries} (distinct : (entries ++ later).keys.Nodup) :
    entries.putAll later = entries ++ later := by
  induction later generalizing entries with
  | nil => exact (List.append_nil entries).symm
  | cons entry rest ih =>
      obtain ⟨key, value⟩ := entry
      have absent : key ∉ entries.keys := by
        rw [keys, List.map_append, List.nodup_append] at distinct
        exact fun member => distinct.2.2 key member key List.mem_cons_self rfl
      have next : entries.putAll ((key, value) :: rest) = (entries.put key value).putAll rest := rfl
      rw [next, put_of_not_mem absent, ih, List.append_assoc, List.singleton_append]
      rwa [List.append_assoc, List.singleton_append]

end Entries

namespace Setting

/-! ### Keys under their settings' own names -/

theorem canonical_key_of_name (s : Setting) : canonicalKey s.name = s.name :=
  (canonical_key_eq_name_iff s s.name).mpr (spells_forms s).1

theorem underscored_underscored (key : String) : underscored (underscored key) = underscored key := by
  rw [underscored, underscored, String.toList_ofList, List.map_map]
  congr 1
  refine List.map_congr_left fun c _ => ?_
  by_cases hyphen : c = '-'
  · simp only [Function.comp_apply, hyphen]
    rfl
  · simp only [Function.comp_apply, beq_eq_false_iff_ne.mpr hyphen, Bool.false_eq_true, if_false]

/-- What a key stands for stands for itself. -/
theorem canonical_key_idempotent (key : String) :
    canonicalKey (canonicalKey key) = canonicalKey key := by
  cases found : ofHostName? key with
  | some s =>
      have named : canonicalKey key = s.name := by rw [canonicalKey, found]
      rw [named, canonical_key_of_name]
  | none =>
      have plain : canonicalKey key = underscored key := by rw [canonicalKey, found]
      have other : ofHostName? (underscored key) = none := by
        cases found' : ofHostName? (underscored key) with
        | none => rfl
        | some t =>
            have host := (of_host_name_eq_some_iff _ t).mp found'
            have same := eq_of_underscored_eq_host_name host
            rw [(of_host_name_eq_some_iff key t).mpr same] at found
            cases found
      rw [plain, canonicalKey, other, underscored_underscored]

/-- The key whose value is left as it is written is the only spelling of its setting. -/
theorem spells_blacklist_iff (key : String) :
    blacklist.Spells key ↔ key = Environment.rawKey := by
  constructor
  · rintro (host | written)
    · exact host
    · have same := (underscored_eq_iff (hyphen_not_in_name blacklist) key).mpr written
      exact eq_of_underscored_eq_host_name (s := blacklist) same
  · rintro rfl
    exact (spells_forms blacklist).1

theorem canonical_key_eq_raw_iff (key : String) :
    canonicalKey key = Environment.rawKey ↔ key = Environment.rawKey :=
  (canonical_key_eq_name_iff blacklist key).trans (spells_blacklist_iff key)

end Setting

namespace Settings

open Environment

variable {lookup : String → Option String}

/-! ### Expansion and names -/

/-- What becomes of a value that is given for a setting in a file. -/
def expandedFor (lookup : String → Option String) (s : Setting) (d : Datum) : Datum :=
  if s = .blacklist then d else expandValue lookup d

/-- Expansion changes values by their keys. -/
theorem expand_entries_eq (entries : Entries) :
    expandEntries lookup entries =
      entries.revise fun key value => if key == rawKey then value else expandValue lookup value :=
  rfl

theorem renamed_expand (fragment : Entries) :
    renamed (expandEntries lookup fragment) = expandEntries lookup (renamed fragment) := by
  rw [renamed, expandEntries, expandEntries, renamed, List.map_map, List.map_map]
  refine List.map_congr_left fun entry _ => ?_
  obtain ⟨key, value⟩ := entry
  have raw : (Setting.canonicalKey key == rawKey) = (key == rawKey) := by
    rw [Bool.eq_iff_iff, beq_iff_eq, beq_iff_eq, Setting.canonical_key_eq_raw_iff]
  simp only [Function.comp_apply, raw]

/-- References may be expanded before or after the keys are put under the settings' own names. -/
theorem canonical_expand (fragment : Entries) :
    canonical (expandEntries lookup fragment) = expandEntries lookup (canonical fragment) := by
  have put := Entries.put_all_revise
    (fun key value => if key == rawKey then value else expandValue lookup value) [] (renamed fragment)
  rw [← expand_entries_eq, ← expand_entries_eq, ← renamed_expand] at put
  exact put

theorem canonical_canonical (fragment : Entries) :
    canonical (canonical fragment) = canonical fragment := by
  have own : renamed (canonical fragment) = canonical fragment := by
    refine (List.map_congr_left fun entry member => ?_).trans (List.map_id _)
    obtain ⟨key, value⟩ := entry
    have among : key ∈ (canonical fragment).keys := List.mem_map_of_mem member
    rcases Entries.mem_keys_put_all among with none | renamed
    · cases none
    · rw [Entries.keys, List.map_map, List.mem_map] at renamed
      obtain ⟨original, _, rfl⟩ := renamed
      exact congrArg (·, value) (Setting.canonical_key_idempotent original.1)
  have distinct : (canonical fragment).keys.Nodup :=
    Entries.nodup_keys_put_all (show (Entries.keys []).Nodup from List.nodup_nil) (renamed fragment)
  have put : canonical (canonical fragment) = Entries.putAll [] (renamed (canonical fragment)) := rfl
  rw [put, own, Entries.put_all_of_nodup distinct, List.nil_append]

theorem expanded_of_spelled {s : Setting} {key : String} (spells : s.Spells key) (d : Datum) :
    (if key == rawKey then d else expandValue lookup d) = expandedFor lookup s d := by
  by_cases raw : s = .blacklist
  · have same := (Setting.spells_blacklist_iff key).mp (raw ▸ spells)
    rw [expandedFor, if_pos raw, if_pos (beq_iff_eq.mpr same)]
  · have other : key ≠ rawKey := fun same => raw
      (Setting.spells_unique spells ((Setting.spells_blacklist_iff key).mpr same))
    rw [expandedFor, if_neg raw, if_neg (fun same => other (beq_iff_eq.mp same))]

theorem mem_expanded {s : Setting} {key : String} (spells : s.Spells key) {d : Datum}
    {fragment : Entries} (member : (key, d) ∈ fragment) :
    (key, expandedFor lookup s d) ∈ expandEntries lookup fragment := by
  rw [← expanded_of_spelled spells]
  exact List.mem_map.mpr ⟨(key, d), member, rfl⟩

/-- The last entry for a setting stays the last, with its value expanded unless it is the text for
excluded files. -/
theorem last_in_expanded {s : Setting} {fragment : Entries} {d : Datum} (last : LastIn s fragment d) :
    LastIn s (expandEntries lookup fragment) (expandedFor lookup s d) := by
  obtain ⟨before, key, after, split, spells, unmentioned⟩ := last
  refine ⟨expandEntries lookup before, key, expandEntries lookup after, ?_, spells, ?_⟩
  · rw [split, expandEntries, List.map_append, List.map_cons, ← expanded_of_spelled spells]
    rfl
  · rintro ⟨entry, member, spelled⟩
    obtain ⟨original, among, rfl⟩ := List.mem_map.mp member
    exact unmentioned ⟨original, among, spelled⟩

/-! ### From a document to the configuration -/

/-- The source is a file that is there, and the settings in it are these before references are
expanded. -/
inductive Told (host : Host) (lookup : String → Option String) : Source → Entries → Prop
  | file {path : Path} {name : String} {entries : Entries}
      (read : Source.document? host path = .ok (some entries)) :
      Told host lookup (.file path name lookup) entries
  | section_ {path : Path} {name : String} {entries : Entries}
      (read : Source.document? host path = .ok (some entries)) :
      Told host lookup (.section_ path name lookup) (Source.projectSection entries)

theorem Told.load {host : Host} {source : Source} {fragment : Entries}
    (told : Told host lookup source fragment) :
    source.load host = .ok (expandEntries lookup fragment) := by
  cases told with
  | file read =>
      rw [Source.load, read]
      rfl
  | section_ read =>
      rw [Source.load, read]
      rfl

theorem given_last_append {host : Host} {s : Setting} {d : Datum} {later : List Source}
    (given : GivenLast host s later d) (earlier : List Source) :
    GivenLast host s (earlier ++ later) d := by
  induction earlier with
  | nil => exact given
  | cons source rest ih => exact .later ih

/-- The text for excluded files and the pattern of a configuration are those of the value that is given
last. -/
theorem excluded_of_given {host : Host} {sources : List Source} {log : List LogRecord}
    {c : Configuration} {d : Datum} (loaded : load host sources = (log, .ok c))
    (given : GivenLast host .blacklist sources d) :
    ∃ text, d.decoded = .text text ∧ c.blacklist = text ∧
      Configuration.exclusionOf host.room text = .ok c.exclusion := by
  obtain ⟨alone, accepted, text, pattern⟩ := shares_given loaded given
  obtain ⟨_, settled, compiled⟩ := Configuration.of_entries_ok_iff.mp accepted
  have among := given_alone .blacklist d .blacklist
  rw [if_pos rfl] at among
  have passed := settled.blacklist
  rw [Configuration.checkGiven, among] at passed
  have spelled := Datum.as_text_ok_iff.mp (Outcome.map_error_ok passed)
  exact ⟨alone.blacklist, Datum.decoded_eq_text_iff.mpr spelled, text, by rw [pattern, compiled]⟩

/-- Expansion keeps to the names of settings. It may come before or after the keys are put under the
settings' own names, and doing that twice is doing it once. Every setting is expanded under each of its
spellings but the text for excluded files, which has only one. Where a file is the last to mention a
setting, the value is checked expanded, and the text for excluded files is checked and compiled as it is
written. -/
theorem expansion_keeps_names (lookup : String → Option String) (fragment : Entries) :
    canonical (expandEntries lookup fragment) = expandEntries lookup (canonical fragment) ∧
    canonical (canonical fragment) = canonical fragment ∧
    (∀ key, Setting.blacklist.Spells key ↔ key = rawKey) ∧
    (∀ s key d, Setting.Spells s key → (key, d) ∈ fragment →
      (key, if s = .blacklist then d else expandValue lookup d) ∈ expandEntries lookup fragment) ∧
    ∀ host source earlier later s d, Told host lookup source fragment → LastIn s fragment d →
      Unmentioned host s later →
      (∀ log merged, merge host (earlier ++ source :: later) [] = (log, .ok merged) →
        merged.value? s.name = some (if s = .blacklist then d else expandValue lookup d)) ∧
      ∀ log c, load host (earlier ++ source :: later) = (log, .ok c) →
        (s ≠ .blacklist → ∃ alone,
          Configuration.ofEntries host.room [(s.name, expandValue lookup d)] = .ok alone ∧
            Configuration.Shares s c alone) ∧
        (s = .blacklist → ∃ text, d.decoded = .text text ∧ c.blacklist = text ∧
          Configuration.exclusionOf host.room text = .ok c.exclusion) := by
  refine ⟨canonical_expand fragment, canonical_canonical fragment, Setting.spells_blacklist_iff,
    fun _ _ _ spells member => mem_expanded spells member, ?_⟩
  intro host source earlier later s d told last unmentioned
  have given : GivenLast host s (earlier ++ source :: later) (expandedFor lookup s d) :=
    given_last_append (.here told.load (last_in_expanded last) unmentioned) earlier
  refine ⟨fun log merged done => value_merge_given given done, fun log c loaded => ⟨?_, ?_⟩⟩
  · intro other
    rw [expandedFor, if_neg other] at given
    exact shares_given loaded given
  · rintro rfl
    exact excluded_of_given loaded given

/-- Two spellings of one setting, and a pattern that looks like a reference. -/
def referringDocument : String :=
  "blacklist = \"$HOME\"\nrulesDirs = \"$PWD\"\nrules-dirs = [\"$HOME/rules\"]\n"

def referringEntries : Entries :=
  [("blacklist", .text "$HOME"), ("rulesDirs", .text "$PWD"),
    ("rules-dirs", .list [.text "$HOME/rules"])]

def referringHost : Host :=
  .plain [(["settings.toml"], .file (Text.Utf8.encode referringDocument) false)] []
    [("HOME", "/root")]

def referringFile : Source := hostFile referringHost (Path.ofText "settings.toml")

theorem referring_told :
    Told referringHost referringHost.envValue? referringFile referringEntries := by
  have read : Source.document? referringHost (Path.ofText "settings.toml") =
      .ok (some referringEntries) := by rfl
  exact .file read

/-- The directories are expanded under the spelling that comes last, and the pattern is not. -/
theorem referring_names_kept :
    ∃ log c, load referringHost [.defaults, referringFile] = (log, .ok c) ∧
      c.rulesDirs = ["/root/rules"] ∧ c.blacklist = "$HOME" ∧
      Configuration.exclusionOf .usual "$HOME" = .ok c.exclusion := by
  have accepted : (load referringHost [.defaults, referringFile]).2.toOption.map (·.timeout) =
      some Configuration.defaultTimeout := by decide +kernel
  have expanded : (Configuration.ofEntries referringHost.room [(Setting.name .rulesDirs, expandValue
      referringHost.envValue? (.list [.text "$HOME/rules"]))]).toOption.map (·.rulesDirs) =
      some ["/root/rules"] := by decide +kernel
  have lastRules : LastIn .rulesDirs referringEntries (.list [.text "$HOME/rules"]) :=
    value_canonical_eq_some_iff.mp (by rfl)
  have lastText : LastIn .blacklist referringEntries (.text "$HOME") :=
    value_canonical_eq_some_iff.mp (by rfl)
  have nothing (s : Setting) : Unmentioned referringHost s [] := nofun
  cases loaded : load referringHost [.defaults, referringFile] with
  | mk log outcome =>
      rw [loaded] at accepted
      cases outcome with
      | error fault => cases accepted
      | ok c =>
          have kept := (expansion_keeps_names referringHost.envValue? referringEntries).2.2.2.2
            referringHost referringFile [.defaults] []
          obtain ⟨alone, single, same⟩ :=
            ((kept _ _ referring_told lastRules (nothing _)).2 log c loaded).1 (by decide)
          obtain ⟨text, given, named, compiled⟩ :=
            ((kept _ _ referring_told lastText (nothing _)).2 log c loaded).2 rfl
          cases given
          refine ⟨log, c, rfl, ?_, named, compiled⟩
          rw [single] at expanded
          exact same.trans (Option.some.inj expanded)

end Settings

end PlaybookLint
