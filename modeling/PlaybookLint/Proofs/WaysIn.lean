import PlaybookLint.Proofs.GateForms
import PlaybookLint.Proofs.Precedence

/-!
Two ways in for settings held in memory: building a configuration from them at once, and loading them as
a source. The first prefers a setting's own name to the one that editors use, the second takes what
comes last. So loading is building from the entries that no later entry overrides, and both ways agree
wherever the value under a setting's own name is also the last one given.
-/

namespace PlaybookLint

namespace Configuration

/-! ### Equal values, whatever the names -/

/-- Building a configuration and loading one come to the same: equal configurations, problems of the
settings on both ways, or a pattern that cannot be compiled, or values nested too deep, on both. -/
inductive Agree : Except Refusal Configuration → Except Settings.Fault Configuration → Prop
  | made (c : Configuration) : Agree (.ok c) (.ok c)
  | refused (found found' : List Problem) : Agree (.error (.problems found)) (.error (.invalid found'))
  | excess (what : Pattern.Excess) : Agree (.error (.excess what)) (.error (.excess what))
  | tooDeep : Agree (.error .tooDeep) (.error .tooDeep)

section Given

variable {room : Room} {entries entries' : Entries}

/-- A check passes for equal values, also where they are given under different names. -/
theorem check_given_named {α : Type} {s : Setting} {default a : α} {check : Datum → Checked α}
    (same : (s.given? entries).map (·.2) = (s.given? entries').map (·.2))
    (passed : checkGiven entries s default check = .ok a) :
    checkGiven entries' s default check = .ok a := by
  rw [checkGiven] at passed ⊢
  cases given : s.given? entries with
  | none =>
      rw [given, Option.map_none, eq_comm, Option.map_eq_none_iff] at same
      rw [given] at passed
      rw [same]
      exact passed
  | some pair =>
      rw [given, Option.map_some, eq_comm, Option.map_eq_some_iff] at same
      obtain ⟨⟨key, d⟩, given', rfl⟩ := same
      rw [given] at passed
      have checked := Outcome.map_error_ok passed
      simp only [given', checked]
      rfl

theorem Settled.named {c : Configuration} (settled : Settled entries c)
    (same : ∀ s : Setting, (s.given? entries).map (·.2) = (s.given? entries').map (·.2)) :
    Settled entries' c where
  executablePath := check_given_named (same _) settled.executablePath
  ruleSkips := check_given_named (same _) settled.ruleSkips
  rulesDirs := check_given_named (same _) settled.rulesDirs
  rulesDirDefault := check_given_named (same _) settled.rulesDirDefault
  excludeDirs := check_given_named (same _) settled.excludeDirs
  useProjectConfig := check_given_named (same _) settled.useProjectConfig
  blacklist := check_given_named (same _) settled.blacklist
  displaySeverity := check_given_named (same _) settled.displaySeverity
  timeout := check_given_named (same _) settled.timeout

theorem agree_self (outcome : Except Refusal Configuration) :
    Agree outcome (outcome.mapError Settings.Fault.ofRefusal) := by
  match outcome with
  | .ok c => exact .made c
  | .error (.problems found) => exact .refused found found
  | .error (.excess what) => exact .excess what
  | .error .tooDeep => exact .tooDeep

/-- How deep the rules to skip are nested does not depend on the name that they are given under. -/
theorem skips_too_deep_named
    (same : (Setting.given? entries .ruleSkips).map (·.2) =
      (Setting.given? entries' .ruleSkips).map (·.2)) :
    skipsTooDeep room entries = skipsTooDeep room entries' := by
  rw [skipsTooDeep, skipsTooDeep]
  generalize Setting.given? entries .ruleSkips = given at same ⊢
  generalize Setting.given? entries' .ruleSkips = given' at same ⊢
  cases given with
  | none => rw [Option.map_eq_none_iff.mp same.symm]
  | some pair =>
      obtain ⟨⟨key', d'⟩, rfl, value⟩ := Option.map_eq_some_iff.mp same.symm
      obtain ⟨key, d⟩ := pair
      obtain rfl : d' = d := value
      cases d' <;> rfl

/-- Only the values that are given matter; the names that they are given under are told in problems. -/
theorem agree_of_given
    (same : ∀ s : Setting, (s.given? entries).map (·.2) = (s.given? entries').map (·.2)) :
    Agree (ofEntries room entries)
      ((ofEntries room entries').mapError Settings.Fault.ofRefusal) := by
  have deep : skipsTooDeep room entries = skipsTooDeep room entries' := skips_too_deep_named (same _)
  by_cases nests : skipsTooDeep room entries = true
  · rw [of_entries_of_deep nests, of_entries_of_deep (deep ▸ nests)]
    exact .tooDeep
  have shallow : skipsTooDeep room entries = false := Bool.eq_false_iff.mpr nests
  have shallow' : skipsTooDeep room entries' = false := deep ▸ shallow
  by_cases settles : ∃ c, Settled entries c
  · obtain ⟨c, settled⟩ := settles
    rw [of_entries_of_settled shallow settled,
      ← of_entries_of_settled shallow' (settled.named same)]
    exact agree_self (ofEntries room entries')
  · have settles' : ¬∃ c, Settled entries' c :=
      fun ⟨c, settled⟩ => settles ⟨c, settled.named fun s => (same s).symm⟩
    obtain ⟨found, refused⟩ := (settled_or_problems shallow).resolve_left settles
    obtain ⟨found', refused'⟩ := (settled_or_problems shallow').resolve_left settles'
    rw [refused, refused']
    exact .refused found found'

end Given

end Configuration

namespace Settings

/-! ### The last value of a setting -/

/-- The value under the setting's own name is also the last one given for it. -/
def OwnNamePrevails (s : Setting) (entries : Entries) : Prop :=
  ∀ own last, entries.value? s.name = some own → LastIn s entries last → own = last

/-- The entries that no later entry overrides. -/
def latest : Entries → Entries
  | [] => []
  | entry :: rest =>
    if rest.any fun later => Setting.canonicalKey later.1 == Setting.canonicalKey entry.1 then
      latest rest
    else entry :: latest rest

/-- A key without hyphens is a setting's own name or the one that editors use. -/
theorem spells_of_plain {s : Setting} {key : String} (plain : '-' ∉ key.toList)
    (spells : s.Spells key) : key = s.name ∨ key = s.hostName := by
  rcases spells with host | written
  · exact .inr host
  · refine .inl (String.toList_inj.mp ?_)
    generalize s.name.toList = meant at written
    generalize key.toList = chars at plain written
    induction written with
    | nil => rfl
    | @cons m c meant chars as _ ih =>
        rw [List.mem_cons, not_or] at plain
        rcases as with same | ⟨_, hyphen⟩
        · rw [same, ih plain.2]
        · exact absurd hyphen.symm plain.1

section Latest

variable {entries : Entries}

theorem mentions_of_value {s : Setting} {d : Datum} {key : String} (spells : s.Spells key)
    (found : entries.value? key = some d) : Mentions s entries := by
  obtain ⟨before, after, split, _⟩ := (Entries.value_eq_some_iff entries key d).mp found
  exact ⟨(key, d), split ▸ List.mem_append_right before List.mem_cons_self, spells⟩

/-- Where the own name prevails, the value that is given is the last one. -/
theorem given_of_prevails {s : Setting} (plain : ∀ entry ∈ entries, '-' ∉ entry.1.toList)
    (prevails : OwnNamePrevails s entries) :
    (s.given? entries).map (·.2) = (canonical entries).value? s.name := by
  obtain ⟨ownSpells, _, hostSpells⟩ := Setting.spells_forms s
  rw [Setting.given?]
  cases own : entries.value? s.name with
  | some d =>
      obtain ⟨last, lastIn⟩ := exists_last_of_mentions (mentions_of_value ownSpells own)
      rw [Option.map_some, value_canonical_eq_some_iff.mpr lastIn, prevails d last own lastIn]
  | none =>
      cases last : (canonical entries).value? s.name with
      | some d =>
          obtain ⟨before, key, after, split, spells, unmentioned⟩ :=
            value_canonical_eq_some_iff.mp last
          have among : (key, d) ∈ entries := split ▸ List.mem_append_right before List.mem_cons_self
          have host : key = s.hostName := by
            refine (spells_of_plain (plain _ among) spells).resolve_left fun same => ?_
            exact (Entries.value_eq_none_iff entries s.name).mp own _ among same
          have found : entries.value? s.hostName = some d := by
            refine (Entries.value_eq_some_iff entries s.hostName d).mpr
              ⟨before, after, host ▸ split, fun entry member same => ?_⟩
            exact unmentioned ⟨entry, member, same ▸ hostSpells⟩
          simp only [found, Option.map_some]
      | none =>
          cases found : entries.value? s.hostName with
          | none => rfl
          | some d =>
              obtain ⟨last', lastIn⟩ := exists_last_of_mentions (mentions_of_value hostSpells found)
              rw [value_canonical_eq_some_iff.mpr lastIn] at last
              cases last

theorem mem_of_mem_latest {entry : String × Datum} (member : entry ∈ latest entries) :
    entry ∈ entries := by
  fun_induction latest entries with
  | case1 => exact member
  | case2 first rest overridden ih => exact List.mem_cons_of_mem first (ih member)
  | case3 first rest last ih =>
      rcases List.mem_cons.mp member with rfl | later
      · exact List.mem_cons_self
      · exact List.mem_cons_of_mem first (ih later)

/-- No two of the latest entries stand for one name. -/
theorem latest_distinct (entries : Entries) : (latest entries).Pairwise fun first second =>
    Setting.canonicalKey second.1 ≠ Setting.canonicalKey first.1 := by
  fun_induction latest entries with
  | case1 => exact .nil
  | case2 first rest overridden ih => exact ih
  | case3 first rest last ih =>
      refine .cons (fun later member same => last ?_) ih
      exact List.any_eq_true.mpr ⟨later, mem_of_mem_latest member, beq_iff_eq.mpr same⟩

theorem prevails_latest (s : Setting) (entries : Entries) : OwnNamePrevails s (latest entries) := by
  intro own last found lastIn
  obtain ⟨before, key, after, split, spells, unmentioned⟩ := lastIn
  obtain ⟨before', after', split', _⟩ := (Entries.value_eq_some_iff _ _ _).mp found
  have among : (s.name, own) ∈ before ++ (key, last) :: after :=
    split ▸ split' ▸ List.mem_append_right before' List.mem_cons_self
  have own' := (Setting.spells_forms s).1
  rcases List.mem_append.mp among with earlier | later
  · have distinct := latest_distinct entries
    rw [split, List.pairwise_append] at distinct
    refine absurd ?_ (distinct.2.2 _ earlier _ List.mem_cons_self)
    rw [(Setting.canonical_key_eq_name_iff s key).mpr spells,
      (Setting.canonical_key_eq_name_iff s s.name).mpr own']
  · rcases List.mem_cons.mp later with same | behind
    · exact (Prod.mk.inj same).2
    · exact absurd ⟨_, behind, own'⟩ unmentioned

/-- What is overridden makes no difference to the last values. -/
theorem value_canonical_latest (entries : Entries) (key : String) :
    (canonical (latest entries)).value? key = (canonical entries).value? key := by
  rw [value_canonical, value_canonical]
  fun_induction latest entries with
  | case1 => rfl
  | case2 first rest overridden ih =>
      have cut : renamed (first :: rest) =
        (Setting.canonicalKey first.1, first.2) :: renamed rest := rfl
      rw [ih, cut, Entries.value_cons]
      split
      · rename_i same
        obtain ⟨later, member, named⟩ := List.any_eq_true.mp overridden
        have found : (renamed rest).value? key ≠ none := by
          rw [ne_eq, Entries.value_eq_none_iff]
          intro absent
          exact absent _ (List.mem_map_of_mem member) ((beq_iff_eq.mp named).trans same)
        obtain ⟨d, held⟩ := Option.ne_none_iff_exists'.mp found
        rw [held, Option.some_or]
      · rw [Option.or_none]
  | case3 first rest last ih =>
      have cut (tail : Entries) : renamed (first :: tail) =
        (Setting.canonicalKey first.1, first.2) :: renamed tail := rfl
      rw [cut, cut, Entries.value_cons, Entries.value_cons, ih]

end Latest

/-! ### Two ways in -/

/-- Loading a single source in memory checks its entries under the settings' own names. -/
theorem load_memory {entries : Entries} (given : ∀ entry ∈ entries, entry.2.isNull = false)
    (host : Host) (name : String) : (load host [.memory entries name]).2 =
      (Configuration.ofEntries host.room (Entries.putAll [] (canonical entries))).mapError
        Fault.ofRefusal := by
  have whole : entries.filter (!·.2.isNull) = entries :=
    List.filter_eq_self.mpr fun entry member => by rw [given entry member]; rfl
  have loaded : (Source.memory entries name).load host = .ok entries := congrArg Except.ok whole
  rw [load, merge, loaded]
  rfl

/-- Under the settings' own names, the values that are given are the last ones. -/
theorem given_of_canonical (s : Setting) (entries : Entries) :
    (s.given? (Entries.putAll [] (canonical entries))).map (·.2) =
      (canonical entries).value? s.name := by
  have own (key : String) : (Entries.putAll [] (canonical entries)).value? key =
      (canonical entries).value? key := by
    rw [Entries.value_put_all]
    exact Option.or_none
  rw [Setting.given?, own, own]
  cases found : (canonical entries).value? s.name with
  | some d => rfl
  | none =>
      have absent : (canonical entries).value? s.hostName = none := by
        by_cases same : s.hostName = s.name
        · rw [same, found]
        · exact value_canonical_eq_none fun entry _ named =>
            same (Setting.eq_of_canonical_key_eq_host_name named)
      rw [absent]
      rfl

/-- Settings in memory whose keys have no hyphens and whose values are not null. Loading them is building
a configuration from the entries that no later entry overrides. So loading and building agree wherever
the value under each setting's own name is also the last one given for it: the same configuration comes
of both, or problems of the settings do. -/
theorem ways_in_agree {entries : Entries}
    (plain : ∀ entry ∈ entries, entry.2.isNull = false ∧ '-' ∉ entry.1.toList) (host : Host)
    (name : String) :
    Configuration.Agree (Configuration.ofEntries host.room (latest entries))
      (load host [.memory entries name]).2 ∧
    ((∀ s, OwnNamePrevails s entries) →
      Configuration.Agree (Configuration.ofEntries host.room entries)
        (load host [.memory entries name]).2) := by
  rw [load_memory (fun entry member => (plain entry member).1) host name]
  constructor
  · refine Configuration.agree_of_given fun s => ?_
    have plain' : ∀ entry ∈ latest entries, '-' ∉ entry.1.toList :=
      fun entry member => (plain entry (mem_of_mem_latest member)).2
    rw [given_of_prevails plain' (prevails_latest s entries), value_canonical_latest,
      given_of_canonical]
  · intro prevails
    refine Configuration.agree_of_given fun s => ?_
    rw [given_of_prevails (fun entry member => (plain entry member).2) (prevails s),
      given_of_canonical]

/-- The name that editors use comes first, and the setting's own name behind it. -/
def editedThenOwn : Entries :=
  [("ruleSkips", .text "E301"), ("unknown", .integer 1), ("rule_skips", .text "E502")]

theorem own_prevails_behind (s : Setting) : OwnNamePrevails s editedThenOwn := by
  have others : ∀ t ∈ Setting.all, (editedThenOwn.value? t.name).isNone ∨ t = .ruleSkips := by
    decide +kernel
  intro own last found lastIn
  rcases others s (Setting.mem_all s) with absent | rfl
  · rw [found] at absent
    cases absent
  · have ownText : editedThenOwn.value? (Setting.name .ruleSkips) = some (.text "E502") := rfl
    have lastText : (canonical editedThenOwn).value? (Setting.name .ruleSkips) =
        some (.text "E502") := rfl
    rw [ownText] at found
    rw [value_canonical_eq_some_iff.mpr lastIn] at lastText
    exact (Option.some.inj found).symm.trans (Option.some.inj lastText).symm

theorem edited_then_own_agrees :
    ∃ c, Configuration.ofEntries .usual editedThenOwn = .ok c ∧ c.ruleSkips = "E502" ∧
      (load (.plain [] [] []) [.memory editedThenOwn "overrides"]).2 = .ok c := by
  have built : Configuration.ofEntries (Host.plain [] [] []).room editedThenOwn =
      .ok { Configuration.default with ruleSkips := "E502" } := rfl
  have plain : ∀ entry ∈ editedThenOwn, entry.2.isNull = false ∧ '-' ∉ entry.1.toList := by
    decide +kernel
  have agree := (ways_in_agree plain (.plain [] [] []) "overrides").2 own_prevails_behind
  rw [built] at agree
  generalize (load (.plain [] [] []) [.memory editedThenOwn "overrides"]).2 = loaded at agree
  cases agree
  exact ⟨_, built, rfl, rfl⟩

/-- The name that editors use comes behind the setting's own. -/
def ownThenEdited : Entries := [("rule_skips", .text "E502"), ("ruleSkips", .text "E301")]

/-- The two ways do not agree everywhere: building takes the value under the setting's own name, and
loading the later one. Nor does a configuration, or a problem of the settings, come of a pattern that
repeats something more often than can be counted, on either way. -/
theorem own_then_edited_differs :
    (∀ entry ∈ ownThenEdited, entry.2.isNull = false ∧ '-' ∉ entry.1.toList) ∧
    (∃ c c', Configuration.ofEntries .usual ownThenEdited = .ok c ∧ c.ruleSkips = "E502" ∧
      (load (.plain [] [] []) [.memory ownThenEdited "overrides"]).2 = .ok c' ∧
        c'.ruleSkips = "E301") ∧
    Configuration.ofEntries .usual [("blacklist", .text "a\x7b4294967296\x7d")] =
      .error (.excess .repetition) ∧
    (load (.plain [] [] []) [.memory [("blacklist", .text "a\x7b4294967296\x7d")] "overrides"]).2 =
      .error (.excess .repetition) := by
  have built : Configuration.ofEntries .usual ownThenEdited =
      .ok { Configuration.default with ruleSkips := "E502" } := rfl
  have loaded : (load (.plain [] [] []) [.memory ownThenEdited "overrides"]).2 =
      .ok { Configuration.default with ruleSkips := "E301" } := rfl
  have filled : "a\x7b4294967296\x7d".isEmpty = false := by decide
  have huge : Configuration.ofEntries (Host.plain [] [] []).room
      [("blacklist", .text "a\x7b4294967296\x7d")] = .error (.excess .repetition) :=
    (Gate.of_excluding_excess_iff filled).mpr Gate.compile_huge_count
  refine ⟨by decide +kernel, ⟨_, _, built, rfl, loaded, rfl⟩, huge, ?_⟩
  have given : ∀ entry ∈ [("blacklist", Datum.text "a\x7b4294967296\x7d")],
      entry.2.isNull = false := by decide +kernel
  have own : Entries.putAll [] (canonical [("blacklist", .text "a\x7b4294967296\x7d")]) =
      [("blacklist", .text "a\x7b4294967296\x7d")] := rfl
  rw [load_memory given, own, huge]
  rfl

end Settings

end PlaybookLint
