import PlaybookLint.Proofs.Embedding

/-!
Paths read back from the sentences that tell them. A sentence about a file stands on one line, and
no end of its closing phrase begins another closing phrase; so nothing in front of the line and
nothing behind the sentence can shift what is taken for the path, and the path may hold anything but
a line feed, the phrases themselves included.
-/

namespace PlaybookLint

namespace Failure

variable {α : Type}

/-! ### Phrases on one line -/

/-- What is found at the beginning of a line does not need the lines behind it. -/
def Inline (here : List Char → Option α) : Prop :=
  ∀ line rest, (here (line ++ '\n' :: rest)).isSome = true → (here line).isSome = true

theorem between_here_inline {opening closing : String} (single : '\n' ∉ opening.toList)
    (single' : '\n' ∉ closing.toList) : Inline (betweenHere opening closing) := by
  intro line rest found
  obtain ⟨taken, more, stays, written⟩ := (between_here_is_some_iff opening closing _).mp found
  have sentence : '\n' ∉ opening.toList ++ (taken ++ closing.toList) := by
    simp only [List.mem_append, single, stays, single', or_self, not_false_eq_true]
  have cut : opening.toList ++ (taken ++ closing.toList) ++ more = line ++ '\n' :: rest := by
    rw [written, List.append_assoc, List.append_assoc]
  obtain ⟨after, reach, _⟩ := beyond_of_not_mem sentence cut
  rw [between_here_is_some_iff]
  exact ⟨taken, after, stays, by rw [reach, List.append_assoc, List.append_assoc]⟩

/-- Whole lines, each with its end. -/
def WholeLines (text : List Char) : Prop := text = [] ∨ ∃ lines, text = lines ++ ['\n']

theorem WholeLines.end_of_tail {earlier later : List Char} (whole : WholeLines (earlier ++ later))
    (filled : later ≠ []) : ∃ line, later = line ++ ['\n'] := by
  rcases List.eq_nil_or_concat later with none | ⟨line, last, rfl⟩
  · exact absurd none filled
  · rcases whole with none | ⟨lines, same⟩
    · exact absurd (List.append_eq_nil_iff.mp none).2 filled
    · rw [List.concat_eq_append, ← List.append_assoc] at same
      rw [List.concat_eq_append]
      exact ⟨line, congrArg (line ++ ·) (List.append_inj' same rfl).2⟩

/-- Where whole lines hold nothing, nothing begins in them either. -/
theorem none_begins_in_lines {here : List Char → Option α} (inline : Inline here)
    (grows : Grows here) {before : List Char} (whole : WholeLines before)
    (silent : firstPlace here before = none) (rest : List Char) :
    NoneBegins (fun text a => here text = some a) before rest := by
  rintro earlier later a rfl filled told
  obtain ⟨line, rfl⟩ := whole.end_of_tail filled
  have there : (here (line ++ '\n' :: rest)).isSome = true := by
    rw [List.append_assoc] at told
    exact Option.isSome_iff_exists.mpr ⟨a, told⟩
  have found := (first_place_is_some_iff here _).mpr
    ⟨earlier, line ++ ['\n'], rfl, grows line ['\n'] (inline line rest there)⟩
  rw [silent] at found
  cases found

/-- What begins behind whole lines that hold nothing is found first. -/
theorem first_place_behind_lines {here : List Char → Option α} (inline : Inline here)
    (grows : Grows here) {before rest : List Char} {a : α} (whole : WholeLines before)
    (silent : firstPlace here before = none) (told : here rest = some a) :
    firstPlace here (before ++ rest) = some a := by
  have first := first_of_none_begins (none_begins_in_lines inline grows whole silent rest) told
  exact (first_place_eq_some_iff (fun _ _ => Iff.rfl) _ a).mpr first

/-! ### Sentences about files -/

/-- How a failure is told that concerns a file: what stands in front of its path and what behind.
The opening can be seen, both stay on one line, and no end of the closing begins another one. -/
structure Wording where
  opening : String
  closing : String
  visible : (opening.toList.any fun c => !Text.isBlank c) = true := by decide
  single : '\n' ∉ opening.toList ∧ '\n' ∉ closing.toList := by decide
  solid : ∀ start < closing.toList.length, 0 < start →
    ¬closing.toList.drop start <+: closing.toList := by decide

namespace Wording

/-- The sentence about a path. -/
def about (w : Wording) (path : String) : String := w.opening ++ path ++ w.closing

/-- How a missing file is told. -/
def missing : Wording where
  opening := "WARNING: Couldn't open "
  closing := " - No such file or directory"

def unnamed : Wording where
  opening := "the file_name "
  closing := " does not exist, or is not readable"

def inaccessible : Wording where
  opening := "Could not find or access '"
  closing := "'"

def unread : Wording where
  opening := "error occurred while trying to read the file '"
  closing := "':"

/-- How a file is told that cannot be read, in the order of the groups. -/
def unreadable : List Wording := [unnamed, inaccessible, unread]

/-- A sentence about a path, between whole lines in front of it and a text whose first line does not
close it once more. -/
structure Framed (w : Wording) (before path after : String) : Prop where
  single : '\n' ∉ path.toList
  whole : WholeLines before.toList
  unclosed : ¬w.closing.toList <:+: after.toList.takeWhile (· != '\n')

variable {w : Wording} {before path after : String}

theorem closes_first_line (w : Wording) {taken more rest : List Char} (single : '\n' ∉ taken)
    (cut : rest = taken ++ (w.closing.toList ++ more)) :
    w.closing.toList <:+: rest.takeWhile (· != '\n') := by
  have stays {part : List Char} (absent : '\n' ∉ part) : ∀ c ∈ part, (c != '\n') = true := by
    intro c among
    rw [bne_iff_ne]
    rintro rfl
    exact absent among
  rw [cut, List.takeWhile_append_of_pos (stays single),
    List.takeWhile_append_of_pos (stays w.single.2)]
  exact ⟨taken, _, List.append_assoc _ _ _⟩

/-- A closing that begins behind the beginning of another one begins behind its end. -/
theorem closing_apart (w : Wording) {rest beyond more : List Char} (filled : beyond ≠ [])
    (cut : w.closing.toList ++ rest = beyond ++ (w.closing.toList ++ more)) :
    ∃ taken, beyond = w.closing.toList ++ taken ∧ rest = taken ++ (w.closing.toList ++ more) := by
  rcases List.append_eq_append_iff.mp cut with ⟨taken, far, tail⟩ | ⟨border, near, tail⟩
  · exact ⟨taken, far, tail⟩
  · by_cases none : border = []
    · rw [none, List.append_nil] at near
      rw [none, List.nil_append] at tail
      exact ⟨[], by rw [near, List.append_nil], tail.symm⟩
    · -- The border ends the closing, and it would begin it as well.
      have inside : beyond.length < w.closing.toList.length := by
        rw [near, List.length_append]
        exact Nat.lt_add_of_pos_right (List.length_pos_iff.mpr none)
      have ends : w.closing.toList.drop beyond.length = border := by
        rw [near, List.drop_left]
      have short : border.length ≤ w.closing.toList.length := by
        rw [near, List.length_append]
        exact Nat.le_add_left _ _
      have begins : border <+: w.closing.toList :=
        List.prefix_of_prefix_length_le ⟨rest, tail.symm⟩ (List.prefix_append _ more) short
      rw [← ends] at begins
      exact absurd begins (w.solid _ inside (List.length_pos_iff.mpr filled))

/-- In a framed sentence, the path is what stands between the phrases. -/
theorem Framed.encloses (framed : w.Framed before path after) :
    Encloses w.opening w.closing
      (w.opening.toList ++ (path.toList ++ (w.closing.toList ++ after.toList))) path.toList := by
  refine ⟨framed.single, ⟨after.toList, rfl⟩, ?_⟩
  intro other more single written
  rw [← Nat.not_lt]
  intro longer
  rcases List.append_eq_append_iff.mp (List.append_cancel_left written) with
    ⟨beyond, reach, cut⟩ | ⟨_, short, _⟩
  · have filled : beyond ≠ [] := by
      rintro rfl
      rw [reach, List.append_nil] at longer
      exact Nat.lt_irrefl _ longer
    obtain ⟨taken, far, tail⟩ := w.closing_apart filled cut
    refine framed.unclosed (w.closes_first_line ?_ tail)
    intro among
    rw [reach, far] at single
    exact single (List.mem_append_right _ (List.mem_append_right _ among))
  · rw [short, List.length_append] at longer
    omega

theorem Framed.captured (framed : w.Framed before path after) :
    betweenHere w.opening w.closing
      (w.opening.toList ++ (path.toList ++ (w.closing.toList ++ after.toList))) =
        some path.toList :=
  (between_here_eq_some_iff _ _ _ _).mpr framed.encloses

theorem to_list_about (w : Wording) (before path after : String) :
    (before ++ w.about path ++ after).toList = before.toList ++
      (w.opening.toList ++ (path.toList ++ (w.closing.toList ++ after.toList))) := by
  simp only [about, String.toList_append, List.append_assoc]

theorem spoken_about (w : Wording) (before path after : String) :
    Text.isAllBlank (before ++ w.about path ++ after) = false := by
  obtain ⟨c, inside, seen⟩ := List.any_eq_true.mp w.visible
  rw [Bool.not_eq_true'] at seen
  refine spoken_of_mentioned c inside seen ?_
  rw [mentions, Text.occurs_iff, to_list_about]
  exact ⟨before.toList, _, List.append_assoc _ _ _⟩

end Wording

/-! ### A missing file -/

theorem find_missing_file_framed {before path after : String}
    (framed : Wording.missing.Framed before path after) (silent : findMissingFile before = none) :
    findMissingFile (before ++ Wording.missing.about path ++ after) = some [some path] := by
  have nothing : between Wording.missing.opening Wording.missing.closing before.toList = none :=
    Option.map_eq_none_iff.mp silent
  have found := first_place_behind_lines
    (between_here_inline Wording.missing.single.1 Wording.missing.single.2)
    (between_here_grows _ _) framed.whole nothing framed.captured
  rw [← Wording.to_list_about] at found
  refine Option.map_eq_some_iff.mpr ⟨path.toList, found, ?_⟩
  rw [String.ofList_toList]

/-! ### A file that cannot be read -/

/-- Only the group of one wording takes part. -/
def onlyGroup (index : Nat) (path : String) : Groups :=
  (List.replicate 3 none).set index (some path)

theorem only_group_joined {index : Nat} (known : index < 3) (path : String) :
    String.join ((onlyGroup index path).filterMap id) = path := by
  match index, known with
  | 0, _ => simp [onlyGroup]
  | 1, _ => simp [onlyGroup]
  | 2, _ => simp [onlyGroup]

/-- No two wordings of an unreadable file begin with the same character. -/
theorem unreadable_heads_differ :
    (Wording.unreadable.map (·.opening.toList.head?)).Nodup := by decide

theorem Encloses.head {w : Wording} {text path : List Char}
    (encloses : Encloses w.opening w.closing text path) :
    text.head? = w.opening.toList.head? := by
  obtain ⟨_, ⟨more, written⟩, _⟩ := encloses
  obtain ⟨c, inside, _⟩ := List.any_eq_true.mp w.visible
  obtain ⟨first, rest, opening⟩ := List.exists_cons_of_ne_nil (List.ne_nil_of_mem inside)
  rw [written, opening]
  rfl

/-- At one place, only one wording of an unreadable file can be told. -/
theorem unreadable_wording_unique {text path path' : List Char} {index index' : Nat}
    {w w' : Wording} (place : Wording.unreadable[index]? = some w)
    (place' : Wording.unreadable[index']? = some w')
    (encloses : Encloses w.opening w.closing text path)
    (encloses' : Encloses w'.opening w'.closing text path') : index = index' ∧ path = path' := by
  have bound : index < Wording.unreadable.length := (List.getElem?_eq_some_iff.mp place).1
  have heads : (Wording.unreadable.map (·.opening.toList.head?))[index]? =
      (Wording.unreadable.map (·.opening.toList.head?))[index']? := by
    rw [List.getElem?_map, List.getElem?_map, place, place', Option.map_some, Option.map_some,
      ← encloses.head, ← encloses'.head]
  rw [← List.length_map] at bound
  have same := (List.getElem?_inj bound unreadable_heads_differ).mp heads
  subst same
  cases place.symm.trans place'
  refine ⟨rfl, Option.some.inj ?_⟩
  rw [← (between_here_eq_some_iff _ _ _ _).mpr encloses,
    ← (between_here_eq_some_iff _ _ _ _).mpr encloses']

theorem unreadable_here_worded {text : List Char} {groups : Groups}
    (here : unreadableHere text = some groups) :
    ∃ index w path, Wording.unreadable[index]? = some w ∧ Encloses w.opening w.closing text path ∧
      groups = onlyGroup index (String.ofList path) := by
  simp only [unreadableHere, Option.orElse_eq_orElse, Option.orElse_eq_or, Option.or_eq_some_iff,
    Option.map_eq_some_iff, between_here_eq_some_iff] at here
  rcases here with ⟨_, ⟨path, encloses, rfl⟩, rfl⟩ |
      ⟨_, ⟨_, ⟨path, encloses, rfl⟩, rfl⟩ | ⟨_, _, ⟨path, encloses, rfl⟩, rfl⟩⟩
  · exact ⟨0, _, path, rfl, encloses, rfl⟩
  · exact ⟨1, _, path, rfl, encloses, rfl⟩
  · exact ⟨2, _, path, rfl, encloses, rfl⟩

theorem unreadable_here_of_wording {text path : List Char} {index : Nat} {w : Wording}
    (place : Wording.unreadable[index]? = some w)
    (encloses : Encloses w.opening w.closing text path) :
    unreadableHere text = some (onlyGroup index (String.ofList path)) := by
  have captured : (betweenHere w.opening w.closing text).isSome = true :=
    Option.isSome_iff_exists.mpr ⟨path, (between_here_eq_some_iff _ _ _ _).mpr encloses⟩
  have present : (unreadableHere text).isSome = true := by
    rw [unreadable_here_is_some_iff]
    match index, place with
    | 0, rfl => exact .inl captured
    | 1, rfl => exact .inr (.inl captured)
    | 2, rfl => exact .inr (.inr captured)
  obtain ⟨groups, here⟩ := Option.isSome_iff_exists.mp present
  obtain ⟨index', w', path', place', encloses', rfl⟩ := unreadable_here_worded here
  obtain ⟨rfl, rfl⟩ := unreadable_wording_unique place place' encloses encloses'
  exact here

theorem unreadable_here_inline : Inline unreadableHere := by
  intro line rest found
  rw [unreadable_here_is_some_iff] at found ⊢
  exact found.imp (between_here_inline (by decide) (by decide) line rest)
    (Or.imp (between_here_inline (by decide) (by decide) line rest)
      (between_here_inline (by decide) (by decide) line rest))

theorem find_unreadable_file_framed {index : Nat} {w : Wording} {before path after : String}
    (place : Wording.unreadable[index]? = some w) (framed : w.Framed before path after)
    (silent : findUnreadableFile before = none) :
    findUnreadableFile (before ++ w.about path ++ after) = some (onlyGroup index path) := by
  have told := unreadable_here_of_wording place framed.encloses
  rw [String.ofList_toList] at told
  rw [findUnreadableFile, Wording.to_list_about]
  exact first_place_behind_lines unreadable_here_inline unreadable_here_grows framed.whole silent
    told

/-- What is found of an unreadable file is the path that the first of its sentences tells, in the
group of that sentence's wording alone. -/
theorem unreadable_file_worded {text : String} {groups : Groups}
    (found : findUnreadableFile text = some groups) :
    ∃ index w path, Wording.unreadable[index]? = some w ∧
      First (Encloses w.opening w.closing) text.toList path ∧
      groups = onlyGroup index (String.ofList path) := by
  obtain ⟨before, rest, cut, here, first⟩ :=
    (first_place_eq_some_iff (fun _ _ => Iff.rfl) _ groups).mp found
  obtain ⟨index, w, path, place, encloses, only⟩ := unreadable_here_worded here
  refine ⟨index, w, path, place, ⟨before, rest, cut, encloses, ?_⟩, only⟩
  intro earlier later path' cut' encloses'
  exact first earlier later _ cut' (unreadable_here_of_wording place encloses')

namespace Table

theorem classify_missing_file (target : Target) {text path : String}
    (spoken : Text.isAllBlank text = false) (found : findMissingFile text = some [some path]) :
    default.classify target text = .ok (.diagnostic "missing-file"
      (.ofFile .error (missingFileExcerpt path) target.name) text) := by
  have settles := settles_head ⟨"missing-file", .ok ∘ findMissingFile, some .missingFile⟩
    (default.drop 1) text
  exact settles.classify_diagnostic (congrArg Except.ok found) rfl spoken rfl

theorem classify_unreadable_file (target : Target) {text path : String} {index : Nat}
    (known : index < 3) (spoken : Text.isAllBlank text = false)
    (passed : findMissingFile text = none)
    (found : findUnreadableFile text = some (onlyGroup index path)) :
    default.classify target text = .ok (.diagnostic "unreadable-file"
      (.ofFile .error (unreadableFileExcerpt path) target.name) text) := by
  have here : Row.find ⟨"missing-file", .ok ∘ findMissingFile, some .missingFile⟩ text = .ok none :=
    congrArg Except.ok passed
  have settles := (settles_head ⟨"unreadable-file", .ok ∘ findUnreadableFile, some .unreadableFile⟩
    (default.drop 2) text).after here
  have made : Handler.unreadableFile.diagnostic target (onlyGroup index path) text =
      .ok (.ofFile .error (unreadableFileExcerpt path) target.name) := by
    simp only [Handler.unreadableFile, only_group_joined known]
  exact settles.classify_diagnostic (congrArg Except.ok found) rfl spoken made

/-- A path is reported as it is told. Where nothing is found in the whole lines in front of the
sentence and the rest of its line does not close it again, the diagnostic names exactly the path,
whatever the path holds: for a missing file, and for each wording of an unreadable file where no
missing one is told. Of the wordings of an unreadable file only one takes part, and what is joined
is the path that it tells. -/
theorem paths_read_back (target : Target) :
    (∀ before path after : String, Wording.missing.Framed before path after →
      findMissingFile before = none →
        default.classify target (before ++ Wording.missing.about path ++ after) =
          .ok (.diagnostic "missing-file"
            ⟨.error, "Missing file " ++ path ++ ". Please fix before continuing linter use.",
              target.name, .fileStart, none⟩
            (before ++ Wording.missing.about path ++ after))) ∧
    (∀ w ∈ Wording.unreadable, ∀ before path after : String, w.Framed before path after →
      findUnreadableFile before = none → findMissingFile (before ++ w.about path ++ after) = none →
        default.classify target (before ++ w.about path ++ after) =
          .ok (.diagnostic "unreadable-file"
            ⟨.error,
              path ++ " is unreadable or not a file. Please fix before continuing linter use.",
              target.name, .fileStart, none⟩
            (before ++ w.about path ++ after))) ∧
    ∀ text groups, findUnreadableFile text = some groups →
      ∃ index w path, Wording.unreadable[index]? = some w ∧
        First (Encloses w.opening w.closing) text.toList path ∧
        groups = (List.replicate 3 none).set index (some (String.ofList path)) ∧
        String.join (groups.filterMap id) = String.ofList path := by
  have fewer {index : Nat} {w : Wording} (place : Wording.unreadable[index]? = some w) :
      index < 3 := (List.getElem?_eq_some_iff.mp place).1
  refine ⟨?_, ?_, ?_⟩
  · intro before path after framed silent
    exact classify_missing_file target (Wording.spoken_about _ before path after)
      (find_missing_file_framed framed silent)
  · intro w member before path after framed silent passed
    obtain ⟨index, place⟩ := List.mem_iff_getElem?.mp member
    exact classify_unreadable_file target (fewer place) (w.spoken_about before path after) passed
      (find_unreadable_file_framed place framed silent)
  · intro text groups found
    obtain ⟨index, w, path, place, first, rfl⟩ := unreadable_file_worded found
    exact ⟨index, w, path, place, first, rfl, only_group_joined (fewer place) _⟩

/-- Neither braces nor a closing nor another opening in a path keeps it from being read back. -/
theorem entangled_paths_read_back :
    Wording.missing.Framed "PLAY [all]\n" "\x7b0\x7d - No such file or directory"
        "\nthe file_name x" ∧
      findMissingFile "PLAY [all]\n" = none ∧
      default.classify ⟨.ofText "/work/site.yml", .ofText "/work"⟩
          ("PLAY [all]\n" ++ Wording.missing.about "\x7b0\x7d - No such file or directory" ++
            "\nthe file_name x") =
        .ok (.diagnostic "missing-file"
          ⟨.error, "Missing file \x7b0\x7d - No such file or directory. Please fix before " ++
            "continuing linter use.", "/work/site.yml", .fileStart, none⟩
          ("PLAY [all]\n" ++ Wording.missing.about "\x7b0\x7d - No such file or directory" ++
            "\nthe file_name x")) ∧
    Wording.inaccessible ∈ Wording.unreadable ∧
      Wording.inaccessible.Framed "PLAY [all]\n" "it's the file_name 'a" " on the host\nit's" ∧
      findUnreadableFile "PLAY [all]\n" = none ∧
      findMissingFile ("PLAY [all]\n" ++ Wording.inaccessible.about "it's the file_name 'a" ++
        " on the host\nit's") = none ∧
      default.classify ⟨.ofText "/work/site.yml", .ofText "/work"⟩
          ("PLAY [all]\n" ++ Wording.inaccessible.about "it's the file_name 'a" ++
            " on the host\nit's") =
        .ok (.diagnostic "unreadable-file"
          ⟨.error, "it's the file_name 'a is unreadable or not a file. Please fix before " ++
            "continuing linter use.", "/work/site.yml", .fileStart, none⟩
          ("PLAY [all]\n" ++ Wording.inaccessible.about "it's the file_name 'a" ++
            " on the host\nit's")) ∧
      ∃ groups, findUnreadableFile ("PLAY [all]\n" ++
          Wording.inaccessible.about "it's the file_name 'a" ++ " on the host\nit's") =
            some groups ∧
        ∃ index path, groups = (List.replicate 3 none).set index (some (String.ofList path)) ∧
          String.join (groups.filterMap id) = String.ofList path := by
  have whole : WholeLines "PLAY [all]\n".toList := .inr ⟨"PLAY [all]".toList, by decide⟩
  have missing : Wording.missing.Framed "PLAY [all]\n" "\x7b0\x7d - No such file or directory"
      "\nthe file_name x" := ⟨by decide, whole, by decide⟩
  have inaccessible : Wording.inaccessible.Framed "PLAY [all]\n" "it's the file_name 'a"
      " on the host\nit's" := by
    refine ⟨by decide, whole, ?_⟩
    rw [← Text.occurs_iff]
    decide
  have place : Wording.unreadable[1]? = some Wording.inaccessible := rfl
  have member := List.mem_of_getElem? place
  have silent : findMissingFile "PLAY [all]\n" = none := by decide +kernel
  have silent' : findUnreadableFile "PLAY [all]\n" = none := by decide +kernel
  have passed : findMissingFile ("PLAY [all]\n" ++
      Wording.inaccessible.about "it's the file_name 'a" ++ " on the host\nit's") = none := by
    decide +kernel
  obtain ⟨first, second, third⟩ := paths_read_back ⟨.ofText "/work/site.yml", .ofText "/work"⟩
  have reported := first _ _ _ missing silent
  have reported' := second _ member _ _ _ inaccessible silent' passed
  have found := find_unreadable_file_framed place inaccessible silent'
  obtain ⟨index, w, path, _, _, only, joined⟩ := third _ _ found
  refine ⟨missing, silent, reported.trans ?_, member, inaccessible, silent', passed,
    reported'.trans ?_, _, found, index, path, only, joined⟩
  · refine congrArg (fun d => Except.ok (Classification.diagnostic "missing-file" d _)) ?_
    decide +kernel
  · refine congrArg (fun d => Except.ok (Classification.diagnostic "unreadable-file" d _)) ?_
    decide +kernel

end Table

end Failure

end PlaybookLint
