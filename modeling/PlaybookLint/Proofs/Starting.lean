import PlaybookLint.Command.Spawn
import PlaybookLint.Proofs.Outcome
import PlaybookLint.Proofs.Walk

/-!
The program that is found and the program that is started. A command is looked up from the current
directory, but it is started from the directory that it is to run in, and what is looked up there is
the path that was found. A path from the root leads to the same file from everywhere; any other may
lead to another file, or to none.
-/

namespace PlaybookLint

namespace Files

/-- A path from the root leads to the same place wherever it is used. -/
theorem walk_of_rooted (tree : Tree) {path : String} (rooted : isRooted path = true)
    (here there : Place) : walk tree here path = walk tree there path := by
  simp only [walk, startOf, rooted, if_true]

end Files

namespace Program

variable {native : Native} {tree : Files.Tree} {cwd : Files.Place} {called path : String}
  {words : List String} {image : Image}

theorem runnable_ok_iff {place : Files.Place} {content : List UInt8} :
    runnable tree cwd path = .ok (place, content) ↔
      Files.walk tree cwd path = .ok place ∧ tree.at? place = some (.file content true) := by
  rw [runnable]
  cases Files.walk tree cwd path with
  | error refusal => exact iff_of_false nofun nofun
  | ok reached =>
      simp only [bind, Except.bind, Except.ok.injEq]
      constructor
      · intro found
        split at found
        · rename_i content' there
          cases found
          exact ⟨rfl, there⟩
        · cases found
        · cases found
      · rintro ⟨rfl, there⟩
        rw [there]
        rfl

/-- What is started is the file that the path leads to, even where another program runs it. -/
theorem load_file (loaded : load native tree cwd called path words = .ok image) :
    Files.walk tree cwd path = .ok image.file := by
  rw [load, loadWithin] at loaded
  obtain ⟨⟨place, content⟩, found, loaded⟩ := Outcome.bind_ok loaded
  have reached := (runnable_ok_iff.mp found).1
  dsimp only at loaded
  split at loaded
  · cases loaded
  · obtain ⟨own, _, loaded⟩ := Outcome.bind_ok loaded
    split at loaded
    · cases loaded
      exact reached
    · split at loaded
      · cases loaded
      · obtain ⟨inner, _, made⟩ := Outcome.bind_ok loaded
        cases made
        exact reached

/-- Every file that may be run and tells what it is written for tells it by a path from the root. -/
def InterpretersRooted (tree : Files.Tree) : Prop :=
  ∀ place content name word, tree.at? place = some (.file content true) →
    interpreter? content = some (name, word) → Files.isRooted name = true

/-- A file that may be run tells what it is written for by a path from the root, if at all. -/
def tellsRooted : Files.Node → Bool
  | .file content true => (interpreter? content).all fun told => Files.isRooted told.1
  | _ => true

theorem interpreters_rooted_of_all (each : tree.all (tellsRooted ·.2) = true) :
    InterpretersRooted tree := by
  intro place content name word there told
  rw [Files.Tree.at?] at there
  split at there
  · cases there
  · obtain ⟨before, after, listed, _⟩ := List.lookup_eq_some_iff.mp there
    have member : (place, Files.Node.file content true) ∈ tree := by
      rw [listed]
      exact List.mem_append_right before List.mem_cons_self
    have rooted := List.all_eq_true.mp each _ member
    simpa only [tellsRooted, told, Option.all_some] using rooted

theorem load_within_of_rooted (interpreters : InterpretersRooted tree) (here there : Files.Place)
    (limit : Nat) (rooted : Files.isRooted path = true) :
    loadWithin native tree here limit called path words =
      loadWithin native tree there limit called path words := by
  induction limit generalizing called path words with
  | zero => rfl
  | succ limit ih =>
      have found : runnable tree here path = runnable tree there path := by
        rw [runnable, runnable, Files.walk_of_rooted tree rooted here there]
      rw [loadWithin, loadWithin, found]
      cases reached : runnable tree there path with
      | error refusal => rfl
      | ok there' =>
          obtain ⟨place, content⟩ := there'
          simp only [bind, Except.bind]
          split
          · rfl
          · rcases native tree place with refusal | _ | _
            · rfl
            · simp only [Bool.false_eq_true, if_false]
              cases written : interpreter? content with
              | none => rfl
              | some told =>
                  have onward := interpreters place content told.1 told.2
                    (runnable_ok_iff.mp reached).2 written
                  simp only [ih onward]
            · rfl

/-- Where all that programs are written for is told from the root, a path from the root starts the same
program wherever it is used. -/
theorem load_of_rooted (interpreters : InterpretersRooted tree) (rooted : Files.isRooted path = true)
    (here there : Files.Place) :
    load native tree here called path words = load native tree there called path words :=
  load_within_of_rooted interpreters here there _ rooted

/-- The first of several paths at which something can be started. -/
structure FirstStart (loadAt : String → Except Errno Image) (paths : List String) (path : String)
    (image : Image) : Prop where
  starts : loadAt path = .ok image
  first : ∃ before after, paths = before ++ path :: after ∧
    ∀ other ∈ before, ∃ refusal, loadAt other = .error refusal

theorem load_first_eq_ok_iff (loadAt : String → Except Errno Image) (told : Errno)
    (paths : List String) (image : Image) :
    loadFirst loadAt told paths = .ok image ↔ ∃ path, FirstStart loadAt paths path image := by
  induction paths generalizing told with
  | nil =>
      refine iff_of_false nofun ?_
      rintro ⟨path, _, before, after, cut, _⟩
      cases before <;> cases cut
  | cons head rest ih =>
      rw [loadFirst]
      cases here : loadAt head with
      | ok found =>
          constructor
          · intro same
            cases same
            exact ⟨head, here, [], rest, rfl, fun _ among => absurd among List.not_mem_nil⟩
          · rintro ⟨path, starts, before, after, cut, refused⟩
            cases before with
            | nil =>
                cases cut
                rw [← starts, here]
            | cons other before =>
                obtain ⟨rfl, _⟩ := List.cons.inj cut
                obtain ⟨refusal, broken⟩ := refused head List.mem_cons_self
                cases here.symm.trans broken
      | error refusal =>
          simp only [ih]
          refine exists_congr fun path => ?_
          constructor
          · rintro ⟨starts, before, after, rfl, refused⟩
            refine ⟨starts, head :: before, after, rfl, ?_⟩
            intro other among
            rcases List.mem_cons.mp among with rfl | later
            · exact ⟨refusal, here⟩
            · exact refused other later
          · rintro ⟨starts, before, after, cut, refused⟩
            cases before with
            | nil =>
                cases cut
                cases here.symm.trans starts
            | cons other before =>
                obtain ⟨rfl, rfl⟩ := List.cons.inj cut
                exact ⟨starts, before, after, rfl,
                  fun later among => refused later (List.mem_cons_of_mem _ among)⟩

end Program

namespace Command

variable {host : Host} {name found : String} {words : List String}

/-! ### Looking up -/

/-- How the program of a name is found: an absolute path is taken as it is, a name with a slash is
looked at from the current directory, and any other in a directory of the search path that has it. -/
inductive Found (host : Host) (name : String) : String → Prop
  | absolute (rooted : (Path.ofText name).isAbsolute = true) :
      Found host name (Path.ofText name).text
  | here (relative : (Path.ofText name).isAbsolute = false) (slashed : hasSlash name = true)
      (runs : Files.isProgram host.tree host.cwd name = true) : Found host name name
  | along {directory : String} (bare : hasSlash name = false)
      (listed : directory.toList ∈
        Files.splitColons ((host.envValue? "PATH").getD usualPath).toList)
      (runs : Files.isProgram host.tree host.cwd (Files.inDirectory directory name) = true) :
      Found host name (Files.inDirectory directory name)

theorem found_of_normalize {command : List String}
    (accepted : normalize host (name :: words) = .ok command) :
    ∃ found, command = found :: words ∧ Found host name found := by
  simp only [normalize] at accepted
  split at accepted
  · rename_i rooted
    cases accepted
    exact ⟨_, rfl, .absolute rooted⟩
  · rename_i relative
    split at accepted
    · rename_i found located
      cases accepted
      refine ⟨found, rfl, ?_⟩
      simp only [locate?] at located
      split at located
      · rename_i slashed
        split at located
        · rename_i runs
          cases located
          exact .here (Bool.not_eq_true _ ▸ relative) slashed runs
        · cases located
      · rename_i bare
        split at located
        · cases located
        · have runs := List.find?_some located
          have listed := List.mem_of_find?_eq_some located
          rw [Files.candidates, List.mem_map] at listed
          obtain ⟨letters, member, same⟩ := listed
          rw [← same] at runs ⊢
          refine .along (Bool.not_eq_true _ ▸ bare) ?_ runs
          rwa [String.toList_ofList]
    · cases accepted

theorem has_slash_of_rooted (rooted : Files.isRooted found = true) : hasSlash found = true := by
  rw [Files.isRooted, beq_iff_eq] at rooted
  rw [hasSlash, List.contains_iff_mem]
  exact List.mem_of_head? rooted

theorem is_rooted_eq_absolute (name : String) :
    Files.isRooted name = (Path.ofText name).isAbsolute := by
  rw [Bool.eq_iff_iff, ← not_iff_not, Bool.not_eq_true, Bool.not_eq_true,
    Path.is_absolute_eq_false_iff, Path.ofText, Path.anchor_of_eq_here_iff, Files.isRooted,
    beq_eq_false_iff_ne]

theorem rooted_in_directory (bare : hasSlash name = false) (directory : String) :
    Files.isRooted (Files.inDirectory directory name) = Files.isRooted directory := by
  rw [Files.inDirectory]
  split
  · rename_i empty
    have unrooted : Files.isRooted name = false := by
      rw [← Bool.not_eq_true]
      intro rooted
      rw [has_slash_of_rooted rooted] at bare
      cases bare
    rw [unrooted, String.isEmpty_iff.mp empty]
    rfl
  · rename_i filled
    have given : directory.toList ≠ [] :=
      fun none => filled (String.isEmpty_iff.mpr (String.toList_inj.mp none))
    split
    · rw [Files.isRooted, Files.isRooted, String.toList_append,
        List.head?_append_of_ne_nil _ given]
    · rw [Files.isRooted, Files.isRooted, String.toList_append, String.toList_append,
        List.append_assoc, List.head?_append_of_ne_nil _ given]

/-- What is found is a path from the root for an absolute name, and for a name without a slash that is
found in a directory of the search path which is told from the root. -/
theorem Found.rooted_iff (route : Found host name found) :
    Files.isRooted found = true ↔ (Path.ofText name).isAbsolute = true ∨
      hasSlash name = false ∧ ∃ directory, found = Files.inDirectory directory name ∧
        Files.isRooted directory = true := by
  cases route with
  | absolute rooted =>
      refine iff_of_true ?_ (.inl rooted)
      rw [Files.is_rooted_text (Path.of_text_normal name)]
      exact rooted
  | here relative slashed runs =>
      rw [is_rooted_eq_absolute, relative, slashed]
      exact iff_of_false nofun nofun
  | @along directory bare listed runs =>
      rw [rooted_in_directory bare]
      constructor
      · exact fun rooted => .inr ⟨bare, directory, rfl, rooted⟩
      · rintro (rooted | ⟨_, other, same, rooted⟩)
        · rw [← is_rooted_eq_absolute] at rooted
          rw [has_slash_of_rooted rooted] at bare
          cases bare
        · rw [← rooted_in_directory bare, same, rooted_in_directory bare]
          exact rooted

/-! ### Starting -/

/-- A program that is called by a name is started in a directory and an environment. -/
def startIn (host : Host) (env : List (String × String)) (name : String) (words : List String)
    (directory : Files.Place) : Except SpawnFault Started :=
  match Program.loadFirst (Program.load host.machine.native host.tree directory name · words) .notFound
      (paths env name) with
  | .ok image => .ok ⟨image, directory, env⟩
  | .error errno => .error (.refused ⟨errno, name⟩)

/-- The texts of a start, in which there must be no null character. -/
def textsOf (o : Options) (given : List (String × String)) (name : String)
    (words : List String) : List String :=
  name :: words ++ (o.cwd.map Path.text).toList ++ given.map (·.1) ++ given.map (·.2)

theorem spawn_eq (host : Host) (o : Options) (name : String) (words : List String) :
    spawn host o name words = (o.env.mapM variablesOf).bind fun own =>
      if (textsOf o (own.getD []) name words).any hasNull then .error .nullCharacter
      else (enter host o.cwd).bind (startIn host (own.getD host.env) name words) := rfl

theorem paths_of_slash (env : List (String × String)) (slashed : hasSlash found = true) :
    paths env found = [found] := by
  rw [paths, if_pos slashed]

theorem start_in_ok {env : List (String × String)} {directory : Files.Place} {started : Started}
    (starts : startIn host env name words directory = .ok started) :
    started.directory = directory ∧ started.env = env ∧
      ∃ path, Program.FirstStart (Program.load host.machine.native host.tree directory name · words)
        (paths env name) path started.image := by
  rw [startIn] at starts
  split at starts
  · rename_i image loaded
    cases starts
    exact ⟨rfl, rfl, (Program.load_first_eq_ok_iff _ _ _ _).mp loaded⟩
  · cases starts

theorem spawn_ok {o : Options} {started : Started} (starts : spawn host o name words = .ok started) :
    enter host o.cwd = .ok started.directory ∧
      ∃ path, Program.FirstStart
        (Program.load host.machine.native host.tree started.directory name · words)
        (paths started.env name) path started.image := by
  rw [spawn_eq] at starts
  obtain ⟨own, _, starts⟩ := Outcome.bind_ok starts
  split at starts
  · cases starts
  · obtain ⟨directory, entered, starts⟩ := Outcome.bind_ok starts
    obtain ⟨same, same', first⟩ := start_in_ok starts
    rw [same, same']
    exact ⟨entered, first⟩

/-- What is started is the first program that a path serves for, and the path that was found is the only
one if it has a slash. -/
theorem spawn_serves {o : Options} {started : Started}
    (starts : spawn host o found words = .ok started) :
    ∃ path, Program.FirstStart
        (Program.load host.machine.native host.tree started.directory found · words)
        (paths started.env found) path started.image ∧
      (hasSlash found = true → path = found) ∧
      Files.walk host.tree started.directory path = .ok started.image.file := by
  obtain ⟨_, path, first⟩ := spawn_ok starts
  refine ⟨path, first, ?_, Program.load_file first.starts⟩
  intro slashed
  obtain ⟨before, after, listed, _⟩ := first.first
  have among : path ∈ paths started.env found := by
    rw [listed]
    exact List.mem_append_right before List.mem_cons_self
  rw [paths_of_slash _ slashed] at among
  exact List.mem_singleton.mp among

/-- The command is run in a directory that can be entered, and whose text has no null character. -/
structure RunsIn (host : Host) (o : Options) (directory : Files.Place) : Prop where
  clean : ∀ path, o.cwd = some path → hasNull path.text = false
  entered : enter host o.cwd = .ok directory

theorem texts_of_clean {o : Options} {directory : Files.Place} (runsIn : RunsIn host o directory)
    (given : List (String × String)) (name : String) (words : List String) :
    (textsOf o given name words).any hasNull =
      (name :: words ++ given.map (·.1) ++ given.map (·.2)).any hasNull := by
  have clean : ((o.cwd.map Path.text).toList).any hasNull = false := by
    cases directory : o.cwd with
    | none => rfl
    | some path => simpa using runsIn.clean path directory
  simp only [textsOf, List.any_append, clean, Bool.or_false]

theorem start_in_of_rooted (interpreters : Program.InterpretersRooted host.tree)
    (rooted : Files.isRooted name = true) (env : List (String × String)) (here there : Files.Place) :
    (startIn host env name words here).map Started.image =
      (startIn host env name words there).map Started.image := by
  have alike :
      Program.loadFirst (Program.load host.machine.native host.tree here name · words) .notFound
          [name] =
        Program.loadFirst (Program.load host.machine.native host.tree there name · words) .notFound
          [name] := by
    simp only [Program.loadFirst, Program.load_of_rooted interpreters rooted here there]
  rw [startIn, startIn, paths_of_slash env (has_slash_of_rooted rooted), alike]
  split <;> rfl

/-- A program at a path from the root is started alike in all directories. -/
theorem spawn_of_rooted (interpreters : Program.InterpretersRooted host.tree)
    (rooted : Files.isRooted name = true) {o o' : Options} (same : o.env = o'.env)
    {here there : Files.Place} (runsHere : RunsIn host o here) (runsThere : RunsIn host o' there) :
    (spawn host o name words).map Started.image = (spawn host o' name words).map Started.image := by
  rw [spawn_eq, spawn_eq, same]
  cases o'.env.mapM variablesOf with
  | error fault => rfl
  | ok own =>
      simp only [Except.bind, texts_of_clean runsHere, texts_of_clean runsThere, runsHere.entered,
        runsThere.entered]
      split
      · rfl
      · exact start_in_of_rooted interpreters rooted _ here there

/-- The program that is found is the one that is started if its path is from the root: if the name is
absolute, or has no slash and is found in a directory of the search path which is told from the root.
Then the directory that the command is run in makes no difference. Any other path is followed from that
directory once more, or, if it is a mere name, the search path is; so what is started is what was found
exactly if the path that serves leads to the same place from there. -/
theorem found_program_started_iff {host : Host} {name found : String} {words : List String}
    (accepted : normalize host (name :: words) = .ok (found :: words)) :
    (Files.isRooted found = true ↔ (Path.ofText name).isAbsolute = true ∨
      hasSlash name = false ∧ ∃ directory, found = Files.inDirectory directory name ∧
        Files.isRooted directory = true) ∧
    (Files.isRooted found = true →
      (∀ o started, spawn host o found words = .ok started →
        Files.walk host.tree host.cwd found = .ok started.image.file) ∧
      (Program.InterpretersRooted host.tree → ∀ o o' : Options, o.env = o'.env →
        ∀ here there, RunsIn host o here → RunsIn host o' there →
        (spawn host o found words).map Started.image =
          (spawn host o' found words).map Started.image)) ∧
    ∀ o started, spawn host o found words = .ok started →
      ∃ path, Program.FirstStart
          (Program.load host.machine.native host.tree started.directory found · words)
          (paths started.env found) path started.image ∧
        (hasSlash found = true → path = found) ∧
        Files.walk host.tree started.directory path = .ok started.image.file ∧
        (Files.walk host.tree host.cwd found = .ok started.image.file ↔
          Files.walk host.tree host.cwd found = Files.walk host.tree started.directory path) := by
  obtain ⟨other, cut, route⟩ := found_of_normalize accepted
  obtain rfl := (List.cons.inj cut).1
  refine ⟨route.rooted_iff, ?_, ?_⟩
  · intro rooted
    constructor
    · intro o started starts
      obtain ⟨path, _, only, leads⟩ := spawn_serves starts
      rw [only (has_slash_of_rooted rooted)] at leads
      rw [Files.walk_of_rooted host.tree rooted host.cwd started.directory]
      exact leads
    · intro interpreters o o' same here there runsHere runsThere
      exact spawn_of_rooted interpreters rooted same runsHere runsThere
  · intro o started starts
    obtain ⟨path, first, only, leads⟩ := spawn_serves starts
    refine ⟨path, first, only, leads, ?_⟩
    rw [leads]

/-- A file of machine code is known by its first octets. -/
def holdsCode : Program.Native := fun tree place =>
  match tree.at? place with
  | some (.file content _) => .ok ([127, 69, 76, 70].isPrefixOf content)
  | _ => .ok false

/-- A shell, and two scripts for it: one in the tools of a project, the other in those of a part of the
project. -/
def toolsTwice : Host where
  tree :=
    [(["bin"], .directory), (["bin", "sh"], .link "/usr/bin/sh"), (["usr"], .directory),
      (["usr", "bin"], .directory), (["usr", "bin", "sh"], .file [127, 69, 76, 70, 2, 1, 1] true),
      (["work"], .directory), (["work", "tools"], .directory),
      (["work", "tools", "lint"], .file (Text.Utf8.encode "#!/bin/sh\n") true),
      (["work", "roles"], .directory), (["work", "roles", "tools"], .directory),
      (["work", "roles", "tools", "lint"], .file (Text.Utf8.encode "#!/bin/sh\n") true),
      (["work", "files"], .directory), (["work", "files", "tools"], .link "../tools")]
  cwd := ["work"]
  env := []
  account? := none
  machine := { Program.Machine.idle with native := holdsCode }
  room := .usual

/-- The usual options, in a directory. -/
def optionsIn (directory : String) : Options :=
  { Options.ofEntries Options.defaults with cwd := some (.ofText directory) }

theorem tools_twice_runs_in {directory : String} {place : Files.Place}
    (clean : hasNull (Path.ofText directory).text = false)
    (entered : (enter toolsTwice (some (.ofText directory))).toOption = some place) :
    RunsIn toolsTwice (optionsIn directory) place where
  clean _ given := Option.some.inj given ▸ clean
  entered := Outcome.ok_of_to_option entered

/-- An absolute name starts one program in all directories; a relative one starts what was found where a
link leads back to it. -/
theorem tools_started_as_found :
    (normalize toolsTwice ["/work//tools/lint"] = .ok ["/work/tools/lint"] ∧
      Files.isRooted "/work/tools/lint" = true ∧ Program.InterpretersRooted toolsTwice.tree ∧
      RunsIn toolsTwice (optionsIn "/work/roles") ["work", "roles"] ∧
      RunsIn toolsTwice (optionsIn "/work/files") ["work", "files"] ∧
      (spawn toolsTwice (optionsIn "/work/roles") "/work/tools/lint" []).map Started.image =
        (spawn toolsTwice (optionsIn "/work/files") "/work/tools/lint" []).map Started.image) ∧
    normalize toolsTwice ["tools/lint"] = .ok ["tools/lint"] ∧
      ∃ started, spawn toolsTwice (optionsIn "/work/files") "tools/lint" [] = .ok started ∧
        Files.walk toolsTwice.tree toolsTwice.cwd "tools/lint" = .ok started.image.file := by
  constructor
  · have accepted : normalize toolsTwice ["/work//tools/lint"] = .ok ["/work/tools/lint"] :=
      Outcome.ok_of_to_option (by decide +kernel)
    have rooted : Files.isRooted "/work/tools/lint" = true := by decide
    have interpreters : Program.InterpretersRooted toolsTwice.tree :=
      Program.interpreters_rooted_of_all (by decide +kernel)
    have inRoles : RunsIn toolsTwice (optionsIn "/work/roles") ["work", "roles"] :=
      tools_twice_runs_in (by decide +kernel) (by decide +kernel)
    have inFiles : RunsIn toolsTwice (optionsIn "/work/files") ["work", "files"] :=
      tools_twice_runs_in (by decide +kernel) (by decide +kernel)
    exact ⟨accepted, rooted, interpreters, inRoles, inFiles,
      ((found_program_started_iff accepted).2.1 rooted).2 interpreters _ _ rfl _ _ inRoles inFiles⟩
  · have accepted : normalize toolsTwice ["tools/lint"] = .ok ["tools/lint"] :=
      Outcome.ok_of_to_option (by decide +kernel)
    have starts : spawn toolsTwice (optionsIn "/work/files") "tools/lint" [] =
        .ok ⟨⟨["work", "tools", "lint"], ["usr", "bin", "sh"], "/bin/sh", ["tools/lint"]⟩,
          ["work", "files"], []⟩ := Outcome.ok_of_to_option (by decide +kernel)
    obtain ⟨_, _, only, _, same⟩ := (found_program_started_iff accepted).2.2 _ _ starts
    refine ⟨accepted, _, starts, same.mpr ?_⟩
    rw [only (by decide)]
    have back : Files.walk toolsTwice.tree ["work", "files"] "tools/lint" =
        .ok ["work", "tools", "lint"] := Outcome.ok_of_to_option (by decide +kernel)
    have found : Files.walk toolsTwice.tree toolsTwice.cwd "tools/lint" =
        .ok ["work", "tools", "lint"] := Outcome.ok_of_to_option (by decide +kernel)
    rw [found, back]

/-- What is started at a relative path in another directory is not what was found. -/
theorem relative_program_elsewhere :
    ∃ place started, normalize toolsTwice ["tools/lint"] = .ok ["tools/lint"] ∧
      Files.walk toolsTwice.tree toolsTwice.cwd "tools/lint" = .ok place ∧
      spawn toolsTwice (optionsIn "/work/roles") "tools/lint" [] = .ok started ∧
      started.image.file ≠ place := by
  refine ⟨["work", "tools", "lint"],
    ⟨⟨["work", "roles", "tools", "lint"], ["usr", "bin", "sh"], "/bin/sh", ["tools/lint"]⟩,
      ["work", "roles"], []⟩, ?_, ?_, ?_, by decide⟩
  · exact Outcome.ok_of_to_option (by decide +kernel)
  · exact Outcome.ok_of_to_option (by decide +kernel)
  · exact Outcome.ok_of_to_option (by decide +kernel)

end Command

end PlaybookLint
