import Mathlib.Data.List.Basic
import PlaybookLint.Files.Tree
import PlaybookLint.Proofs.PathSpelling

/-!
Walks, step by step. A walk along names that are not among those avoided, in a tree whose links lead
along none of them, meets no place with such a name; so it comes to the same end in every tree that has
the same nodes elsewhere, and a last name that is avoided is looked for in one directory only. A walk
that fails, and not only for want of what it looks for, has met a long name, on the way or in a link, or
a directory that bars the way.
-/

namespace PlaybookLint.Files

/-! ### One step -/

/-- How a walk goes on after a name: with what is left of the limit, from where, and along which names
before those that were left. -/
structure Onward where
  limit : Nat
  place : Place
  names : List String

/-- One name of a walk. -/
def step (tree : Tree) (limit : Nat) (place : Place) (name : String) : Except Errno Onward :=
  match tree.at? place with
  | none => .error .notFound
  | some (.file _ _) | some (.link _) | some (.sealed _) => .error .notDirectory
  | some (.barred why _) => if name.isEmpty then .ok ⟨limit, place, []⟩ else .error why
  | some .directory =>
    if name.isEmpty || name == "." then .ok ⟨limit, place, []⟩
    else if name == ".." then .ok ⟨limit, place.dropLast, []⟩
    else if nameLimit < name.utf8ByteSize then .error .nameTooLong
    else
      match tree.at? (place ++ [name]) with
      | none => .error .notFound
      | some (.link target) =>
        if target.isEmpty then .error .notFound
        else
          match limit with
          | 0 => .error .linkLoop
          | limit + 1 => .ok ⟨limit, startOf place target, namesIn target⟩
      | some (.barred why false) => .error why
      | some _ => .ok ⟨limit, place ++ [name], []⟩

/-- How a walk with a limit goes on from a link. -/
def entered (tree : Tree) : Nat → Place → List String → Except Errno Place
  | 0 => fun _ _ => .error .linkLoop
  | limit + 1 => followWithin tree limit

variable {tree tree' : Tree} {limit : Nat} {place : Place} {name : String} {next : Onward}

theorem follow_nil (tree : Tree) (limit : Nat) (place : Place) :
    followWithin tree limit place [] = .ok place := by
  cases limit <;> rfl

/-- A walk goes on as its first step tells. -/
theorem follow_cons (tree : Tree) (limit : Nat) (place : Place) (name : String)
    (rest : List String) : followWithin tree limit place (name :: rest) =
      (step tree limit place name).bind fun next =>
        followWithin tree next.limit next.place (next.names ++ rest) := by
  have onward : followWithin tree limit = followNames tree (entered tree limit) := by
    cases limit <;> rfl
  rw [onward, followNames, step]
  rcases here : tree.at? place with _ | _ | _ | _ | _ | ⟨why, seen⟩
  · rfl
  · rfl
  · dsimp only
    split_ifs
    · cases limit <;> rfl
    · cases limit <;> rfl
    · rfl
    · rcases there : tree.at? (place ++ [name]) with _ | _ | _ | target | _ | ⟨why, _ | _⟩
      · rfl
      · cases limit <;> rfl
      · cases limit <;> rfl
      · dsimp only
        split_ifs
        · rfl
        · cases limit <;> rfl
      · cases limit <;> rfl
      · rfl
      · cases limit <;> rfl
  · rfl
  · rfl
  · dsimp only
    split_ifs
    · cases limit <;> rfl
    · rfl

/-- A step stays where it is, goes up, or goes down from a directory, or it follows a link and takes one
from the limit. -/
theorem step_cases (stepped : step tree limit place name = .ok next) :
    (next.limit = limit ∧ next.names = [] ∧ (next.place = place ∨ next.place = place.dropLast ∨
      tree.at? place = some .directory ∧ next.place = place ++ [name])) ∨
    ∃ target, tree.at? (place ++ [name]) = some (.link target) ∧ limit = next.limit + 1 ∧
      next.place = startOf place target ∧ next.names = namesIn target := by
  rw [step] at stepped
  rcases here : tree.at? place with _ | _ | _ | _ | _ | ⟨why, seen⟩ <;> simp only [here] at stepped
  · cases stepped
  · cases stepped
  · split_ifs at stepped
    · cases stepped
      exact .inl ⟨rfl, rfl, .inl rfl⟩
    · cases stepped
      exact .inl ⟨rfl, rfl, .inr (.inl rfl)⟩
    · rcases there : tree.at? (place ++ [name]) with _ | _ | _ | target | _ | ⟨why, _ | _⟩ <;>
        simp only [there] at stepped
      · cases stepped
      · cases stepped
        exact .inl ⟨rfl, rfl, .inr (.inr ⟨rfl, rfl⟩)⟩
      · cases stepped
        exact .inl ⟨rfl, rfl, .inr (.inr ⟨rfl, rfl⟩)⟩
      · split_ifs at stepped
        cases limit with
        | zero => cases stepped
        | succ limit =>
            cases stepped
            exact .inr ⟨target, rfl, rfl, rfl, rfl⟩
      · cases stepped
        exact .inl ⟨rfl, rfl, .inr (.inr ⟨rfl, rfl⟩)⟩
      · cases stepped
      · cases stepped
        exact .inl ⟨rfl, rfl, .inr (.inr ⟨rfl, rfl⟩)⟩
  · cases stepped
  · cases stepped
  · split_ifs at stepped
    cases stepped
    exact .inl ⟨rfl, rfl, .inl rfl⟩

/-- A step is refused because something is not there, because its name is too long, or as a directory
tells that bars the way. -/
theorem step_refused {why : Errno} (refused : step tree limit place name = .error why) :
    why.isAbsence = true ∨ (why = .nameTooLong ∧ nameLimit < name.utf8ByteSize) ∨
    ∃ door seen, tree.at? door = some (.barred why seen) := by
  rw [step] at refused
  rcases here : tree.at? place with _ | _ | _ | _ | _ | ⟨told, seen⟩ <;> simp only [here] at refused
  · cases refused
    exact .inl rfl
  · cases refused
    exact .inl rfl
  · split_ifs at refused with _ _ long
    · cases refused
      exact .inr (.inl ⟨rfl, long⟩)
    · rcases there : tree.at? (place ++ [name]) with _ | _ | _ | target | _ | ⟨told, _ | _⟩ <;>
        simp only [there] at refused
      · cases refused
        exact .inl rfl
      · cases refused
      · cases refused
      · split_ifs at refused
        · cases refused
          exact .inl rfl
        · cases limit with
          | zero =>
              cases refused
              exact .inl rfl
          | succ limit => cases refused
      · cases refused
      · cases refused
        exact .inr (.inr ⟨_, _, there⟩)
      · cases refused
  · cases refused
    exact .inl rfl
  · cases refused
    exact .inl rfl
  · split_ifs at refused
    cases refused
    exact .inr (.inr ⟨_, _, here⟩)

/-- A step depends on the place, and on what has the name there if the place is a directory. -/
theorem step_congr (here : tree'.at? place = tree.at? place)
    (there : tree.at? place = some .directory →
      tree'.at? (place ++ [name]) = tree.at? (place ++ [name])) :
    step tree' limit place name = step tree limit place name := by
  rw [step, step, here]
  rcases node : tree.at? place with _ | _ | _ | _ | _ | _
  · rfl
  · rfl
  · rw [there node]
  · rfl
  · rfl
  · rfl

/-- What holds at the end of the names, and before a name if it holds after the step, holds of every
walk: a step uses up a name or takes one from the limit. -/
theorem walk_induction (tree : Tree) {motive : Nat → Place → List String → Prop}
    (ended : ∀ limit place, motive limit place [])
    (onward : ∀ limit place name rest,
      (∀ next, step tree limit place name = .ok next →
        motive next.limit next.place (next.names ++ rest)) → motive limit place (name :: rest))
    (limit : Nat) (place : Place) (names : List String) : motive limit place names := by
  -- A link puts its names before the rest, so only the limit gets less there.
  induction limit using Nat.strongRecOn generalizing place names with
  | ind limit fewer =>
    induction names generalizing place with
    | nil => exact ended limit place
    | cons name rest ih =>
        refine onward limit place name rest fun next stepped => ?_
        rcases step_cases stepped with ⟨same, none, _⟩ | ⟨target, _, less, _, _⟩
        · rw [same, none]
          exact ih next.place
        · exact fewer next.limit (less ▸ Nat.lt_succ_self next.limit) next.place _

/-- Nothing in the tree keeps the system from looking for a name: no link leads along a name that is too
long, and what bars a directory only says that nothing is there. -/
structure Searchable (tree : Tree) : Prop where
  links : ∀ place target, tree.at? place = some (.link target) →
    ∀ name ∈ namesIn target, name.utf8ByteSize ≤ nameLimit
  doors : ∀ place why seen, tree.at? place = some (.barred why seen) → why.isAbsence = true

/-- Where nothing keeps the system from looking, a walk along short names fails only for want of what it
looks for. -/
theorem follow_of_searchable (searchable : Searchable tree) (limit : Nat) (place : Place)
    (names : List String) (short : ∀ name ∈ names, name.utf8ByteSize ≤ nameLimit) {why : Errno}
    (refused : followWithin tree limit place names = .error why) : why.isAbsence = true := by
  induction limit, place, names using walk_induction tree with
  | ended limit place =>
      rw [follow_nil] at refused
      cases refused
  | onward limit place name rest ih =>
      rw [List.forall_mem_cons] at short
      rw [follow_cons] at refused
      cases stepped : step tree limit place name with
      | error told =>
          rw [stepped] at refused
          obtain rfl := Except.error.inj refused
          rcases step_refused stepped with absent | ⟨_, long⟩ | ⟨door, seen, bars⟩
          · exact absent
          · exact absurd short.1 (Nat.not_le.mpr long)
          · exact searchable.doors door told seen bars
      | ok next =>
          rw [stepped] at refused
          refine ih next stepped (fun other member => ?_) refused
          rcases List.mem_append.mp member with led | later
          · rcases step_cases stepped with ⟨_, none, _⟩ | ⟨target, link, _, _, names⟩
            · rw [none] at led
              cases led
            · exact searchable.links _ target link other (names ▸ led)
          · exact short.2 other later

/-! ### Trees that are alike -/

/-- The trees have the same nodes at all places without a name that is avoided, and no link of the
first leads along such a name. -/
structure Alike (avoided : List String) (tree tree' : Tree) : Prop where
  nodes : ∀ place : Place, place.Disjoint avoided → tree'.at? place = tree.at? place
  links : ∀ (place : Place) (target : String), tree.at? place = some (.link target) →
    (namesIn target).Disjoint avoided

/-- Two walks come to the same end, and both trees have the same node there. -/
def SameEnd (tree tree' : Tree) (first second : Except Errno Place) : Prop :=
  second = first ∧ ∀ reached, first = .ok reached → tree'.at? reached = tree.at? reached

theorem SameEnd.refused (refusal : Errno) :
    SameEnd tree tree' (.error refusal) (.error refusal) := ⟨rfl, nofun⟩

theorem SameEnd.reached (same : tree'.at? place = tree.at? place) :
    SameEnd tree tree' (.ok place) (.ok place) :=
  ⟨rfl, fun _ there => Except.ok.inj there ▸ same⟩

section

variable {avoided : List String}

theorem start_disjoint (clear : place.Disjoint avoided) (target : String) :
    (startOf place target).Disjoint avoided := by
  rw [startOf]
  split
  · exact List.disjoint_nil_left avoided
  · exact clear

theorem below_disjoint (clear : place.Disjoint avoided) (other : name ∉ avoided) :
    (place ++ [name]).Disjoint avoided :=
  List.disjoint_append_left.mpr ⟨clear, List.singleton_disjoint.mpr other⟩

theorem above_disjoint (clear : place.Disjoint avoided) : place.dropLast.Disjoint avoided :=
  List.disjoint_of_subset_left (List.dropLast_subset place) clear

variable (alike : Alike avoided tree tree')
include alike

/-- Where no name is avoided, a step is the same in both trees. -/
theorem step_alike (clear : place.Disjoint avoided) (other : name ∉ avoided) :
    step tree' limit place name = step tree limit place name :=
  step_congr (alike.nodes place clear) fun _ => alike.nodes _ (below_disjoint clear other)

/-- A step along a name that is not avoided leads neither to one nor along one. -/
theorem step_disjoint (clear : place.Disjoint avoided) (other : name ∉ avoided)
    (stepped : step tree limit place name = .ok next) :
    next.place.Disjoint avoided ∧ next.names.Disjoint avoided := by
  rcases step_cases stepped with ⟨_, none, stay | up | ⟨_, down⟩⟩ | ⟨target, link, _, start, names⟩
  · exact ⟨stay ▸ clear, none ▸ List.disjoint_nil_left avoided⟩
  · exact ⟨up ▸ above_disjoint clear, none ▸ List.disjoint_nil_left avoided⟩
  · exact ⟨down ▸ below_disjoint clear other, none ▸ List.disjoint_nil_left avoided⟩
  · exact ⟨start ▸ start_disjoint clear target, names ▸ alike.links _ target link⟩

/-- A walk along names that are not avoided ends alike in both trees if it does so from the place where
those names lead, whatever is left there of the limit. -/
theorem follow_append (rest : List String) (limit : Nat) (place : Place) (names : List String)
    (clear : place.Disjoint avoided) (plain : names.Disjoint avoided)
    (onward : ∀ left, ∀ reached : Place, reached.Disjoint avoided →
      followWithin tree limit place names = .ok reached →
      SameEnd tree tree' (followWithin tree left reached rest) (followWithin tree' left reached rest)) :
    SameEnd tree tree' (followWithin tree limit place (names ++ rest))
      (followWithin tree' limit place (names ++ rest)) := by
  induction limit, place, names using walk_induction tree with
  | ended limit place => exact onward limit place clear (follow_nil tree limit place)
  | onward limit place name names ih =>
      obtain ⟨other, plain⟩ := List.disjoint_cons_left.mp plain
      rw [List.cons_append, follow_cons, follow_cons, step_alike alike clear other]
      cases stepped : step tree limit place name with
      | error refusal => exact .refused refusal
      | ok next =>
          obtain ⟨clear, led⟩ := step_disjoint alike clear other stepped
          rw [follow_cons, stepped] at onward
          have ended := ih next stepped clear (List.disjoint_append_left.mpr ⟨led, plain⟩) onward
          rwa [List.append_assoc] at ended

/-- A walk along names that are not avoided ends alike in both trees. -/
theorem follow_alike (limit : Nat) {place : Place} {names : List String}
    (clear : place.Disjoint avoided) (plain : names.Disjoint avoided) :
    SameEnd tree tree' (followWithin tree limit place names)
      (followWithin tree' limit place names) := by
  have ended := follow_append alike [] limit place names clear plain fun left reached there _ => by
    rw [follow_nil, follow_nil]
    exact .reached (alike.nodes reached there)
  rwa [List.append_nil] at ended

/-- A walk to any last name ends alike if the trees have the same node of that name in the directory
that it is looked for in. -/
theorem follow_last (limit : Nat) {place : Place} {names : List String} (last : String)
    (clear : place.Disjoint avoided) (plain : names.Disjoint avoided)
    (same : ∀ above : Place, above.Disjoint avoided →
      followWithin tree limit place names = .ok above → tree.at? above = some .directory →
      tree'.at? (above ++ [last]) = tree.at? (above ++ [last])) :
    SameEnd tree tree' (followWithin tree limit place (names ++ [last]))
      (followWithin tree' limit place (names ++ [last])) := by
  refine follow_append alike [last] limit place names clear plain fun left reached there walked => ?_
  rw [follow_cons, follow_cons, step_congr (alike.nodes reached there) (same reached there walked)]
  cases stepped : step tree left reached last with
  | error refusal => exact .refused refusal
  | ok next =>
      dsimp only [Except.bind]
      rw [List.append_nil]
      rcases step_cases stepped with ⟨_, none, stay | up | ⟨here, down⟩⟩ | ⟨target, link, _, start, names⟩
      · rw [none, stay, follow_nil, follow_nil]
        exact .reached (alike.nodes reached there)
      · rw [none, up, follow_nil, follow_nil]
        exact .reached (alike.nodes _ (above_disjoint there))
      · rw [none, down, follow_nil, follow_nil]
        exact .reached (same reached there walked here)
      · exact follow_alike alike next.limit (start ▸ start_disjoint there target)
          (names ▸ alike.links _ target link)

end

/-! ### Paths in normal form -/

theorem text_of_parts (anchor : Anchor) {parts : List String} (filled : parts ≠ []) :
    (Path.mk anchor parts).text = anchor.text ++ "/".intercalate parts := by
  cases anchor with
  | here =>
      cases parts with
      | nil => exact absurd rfl filled
      | cons part rest => rfl
  | slash => rfl
  | doubleSlash => rfl

/-- The pieces of a path's text are its parts, behind empty pieces for the slashes of its anchor. -/
theorem pieces_of_text {p : Path} (normal : p.Normal) (filled : p.parts ≠ []) :
    ∃ slashes : List (List Char), (∀ piece ∈ slashes, piece = []) ∧
      Path.splitSlashes p.text.toList = slashes ++ p.parts.map String.toList := by
  obtain ⟨anchor, parts⟩ := p
  have written := Path.split_slashes_written filled fun part member => (normal part member).2
  rw [text_of_parts anchor filled, String.toList_append]
  cases anchor with
  | here => exact ⟨[], nofun, written⟩
  | slash => exact ⟨[[]], by simp, congrArg ([] :: ·) written⟩
  | doubleSlash => exact ⟨[[], []], by simp, congrArg ([] :: [] :: ·) written⟩

/-- The names in a path's text are its parts. -/
theorem names_in_text {p : Path} (normal : p.Normal) (filled : p.parts ≠ []) :
    namesIn p.text = p.parts := by
  obtain ⟨slashes, empty, cut⟩ := pieces_of_text normal filled
  have named : ∀ piece ∈ p.parts.map String.toList, piece ≠ [] := by
    intro piece member
    obtain ⟨part, among, rfl⟩ := List.mem_map.mp member
    intro none
    have isPart := (normal part among).1
    rw [none] at isPart
    cases isPart
  have kept : (slashes ++ p.parts.map String.toList).filter (· != []) =
      p.parts.map String.toList := by
    rw [List.filter_append, List.filter_eq_nil_iff.mpr, List.nil_append, List.filter_eq_self.mpr]
    · intro piece member
      exact bne_iff_ne.mpr (named piece member)
    · intro piece member
      simp [empty piece member]
  have last : (slashes ++ p.parts.map String.toList).getLast? ≠ some [] := by
    intro none
    rw [List.getLast?_append_of_ne_nil _ (by simpa using filled)] at none
    exact named [] (List.mem_of_getLast? none) rfl
  simp only [namesIn, cut, kept, beq_eq_false_iff_ne.mpr last, Bool.false_and, List.map_map,
    String.ofList_comp_toList, List.map_id, Bool.false_eq_true, if_false]

theorem is_rooted_text {p : Path} (normal : p.Normal) : isRooted p.text = p.isAbsolute := by
  have read := congrArg Path.anchor (Path.of_text_text normal)
  rw [Path.ofText] at read
  rw [Bool.eq_iff_iff, ← not_iff_not, Bool.not_eq_true, Bool.not_eq_true,
    Path.is_absolute_eq_false_iff, ← read, Path.anchor_of_eq_here_iff, isRooted,
    beq_eq_false_iff_ne]

/-- A name that is a single part is put behind the others. -/
theorem child_of_part (d : Path) {name : String} (named : Path.isPart name.toList = true)
    (plain : '/' ∉ name.toList) : d.child name = ⟨d.anchor, d.parts ++ [name]⟩ := by
  have single : Path.ofText name = ⟨.here, [name]⟩ := by
    have normal : (Path.mk .here [name]).Normal := by
      intro part member
      rw [List.mem_singleton.mp member]
      exact ⟨named, plain⟩
    have written : (Path.mk .here [name]).text = name := by
      simp [text_of_parts, Anchor.text]
    rw [← written, Path.of_text_text normal, written]
  rw [Path.child, single]
  rfl

theorem below_normal {d : Path} (normal : d.Normal) (named : Path.isPart name.toList = true)
    (plain : '/' ∉ name.toList) : (Path.mk d.anchor (d.parts ++ [name])).Normal := by
  intro part member
  rcases List.mem_append.mp member with before | last
  · exact normal part before
  · exact List.mem_singleton.mp last ▸ ⟨named, plain⟩

/-- The text of a path is no longer than that of a path below it. -/
theorem size_le_below (anchor : Anchor) (parts : List String) {name : String} (named : name ≠ "") :
    (Path.mk anchor parts).text.utf8ByteSize ≤
      (Path.mk anchor (parts ++ [name])).text.utf8ByteSize := by
  have filled : parts ++ [name] ≠ [] :=
    List.append_ne_nil_of_right_ne_nil parts (List.cons_ne_nil name [])
  rw [text_of_parts anchor filled]
  cases parts with
  | nil =>
      have positive : 0 < name.utf8ByteSize :=
        Nat.pos_of_ne_zero fun zero => named (String.utf8ByteSize_eq_zero_iff.mp zero)
      rw [List.nil_append, String.intercalate_singleton, String.utf8ByteSize_append]
      cases anchor with
      | here => exact Nat.le_add_left_of_le positive
      | slash => exact Nat.le_add_right 1 name.utf8ByteSize
      | doubleSlash => exact Nat.le_add_right 2 name.utf8ByteSize
  | cons part rest =>
      rw [text_of_parts anchor (List.cons_ne_nil part rest),
        String.intercalate_append_of_ne_nil (List.cons_ne_nil part rest) (List.cons_ne_nil name [])]
      simp only [String.utf8ByteSize_append]
      omega

/-! ### Looking for a name in a directory -/

variable {cwd : Place}

/-- The text of a path leads to the directory that its parts lead to. -/
theorem walk_of_parts {d : Path} (normal : d.Normal) (short : d.text.utf8ByteSize ≤ pathLimit)
    (walked : followWithin tree linkLimit (startOf cwd d.text) d.parts = .ok place)
    (here : tree.at? place = some .directory) : walk tree cwd d.text = .ok place := by
  obtain ⟨anchor, parts⟩ := d
  rw [walk, if_neg (Nat.not_lt.mpr short)]
  cases parts with
  | nil =>
      rw [follow_nil] at walked
      cases anchor with
      | here =>
          have start : startOf cwd (Path.mk .here []).text = cwd := rfl
          have names : namesIn (Path.mk .here []).text = ["."] := rfl
          rw [start] at walked ⊢
          obtain rfl := Except.ok.inj walked
          rw [names, follow_cons, step, here]
          exact follow_nil tree linkLimit cwd
      | slash => exact (follow_nil tree linkLimit _).trans walked
      | doubleSlash => exact (follow_nil tree linkLimit _).trans walked
  | cons part rest =>
      have names := names_in_text normal (List.cons_ne_nil part rest)
      have filled : (Path.mk anchor (part :: rest)).text.isEmpty = false := by
        rw [Bool.eq_false_iff]
        intro empty
        rw [String.isEmpty_iff.mp empty] at names
        cases names
      rw [filled, names]
      exact walked

theorem stat_of_same_end {path : String}
    (ended : SameEnd tree tree' (walk tree cwd path) (walk tree' cwd path)) :
    stat tree' cwd path = stat tree cwd path := by
  obtain ⟨same, nodes⟩ := ended
  rw [stat, stat, same]
  cases walked : walk tree cwd path with
  | error refusal => rfl
  | ok reached => simp only [bind, Except.bind, nodes reached walked]

/-- Whether a directory holds a name is told alike in both trees if they have the same node of that
name where the directory's path leads. -/
theorem probe_child_alike {avoided : List String} (alike : Alike avoided tree tree') {d : Path}
    (normal : d.Normal) (clear : (startOf cwd d.text).Disjoint avoided)
    (plain : d.parts.Disjoint avoided) (named : Path.isPart name.toList = true)
    (single : '/' ∉ name.toList)
    (same : ∀ above : Place, above.Disjoint avoided → walk tree cwd d.text = .ok above →
      tree'.at? (above ++ [name]) = tree.at? (above ++ [name])) :
    probe tree' cwd (d.child name).text = probe tree cwd (d.child name).text := by
  have below := below_normal normal named single
  have filled : d.parts ++ [name] ≠ [] :=
    List.append_ne_nil_of_right_ne_nil d.parts (List.cons_ne_nil name [])
  have nonempty : name ≠ "" := by
    rintro rfl
    cases named
  have start : startOf cwd (Path.mk d.anchor (d.parts ++ [name])).text = startOf cwd d.text := by
    rw [startOf, startOf, is_rooted_text below, is_rooted_text normal]
    rfl
  have ended : SameEnd tree tree' (walk tree cwd (Path.mk d.anchor (d.parts ++ [name])).text)
      (walk tree' cwd (Path.mk d.anchor (d.parts ++ [name])).text) := by
    rw [walk, walk]
    split_ifs with empty long
    · exact .refused .notFound
    · exact .refused .nameTooLong
    · have short := Nat.le_trans (size_le_below d.anchor d.parts nonempty) (Nat.not_lt.mp long)
      rw [names_in_text below filled, start]
      exact follow_last alike linkLimit name clear plain fun above apart walked here =>
        same above apart (walk_of_parts normal short walked here)
  rw [child_of_part d named single, probe, probe, stat_of_same_end ended]

/-- A look at a path is refused as the walk along it is, unless something is only missing. -/
theorem probe_eq_error_iff {path : String} {fault : AccessFault} :
    probe tree cwd path = .error fault ↔ '\x00' ∉ path.toList ∧
      stat tree cwd path = .error fault.errno ∧ fault.errno.isAbsence = false ∧ fault.path = path := by
  obtain ⟨why, told⟩ := fault
  rw [probe]
  by_cases null : '\x00' ∈ path.toList
  · rw [if_pos (List.contains_iff_mem.mpr null)]
    exact ⟨nofun, fun refused => absurd null refused.1⟩
  · rw [if_neg (by simpa using null)]
    cases stat tree cwd path with
    | ok node => exact ⟨nofun, fun refused => nomatch refused.2.1⟩
    | error errno =>
        dsimp only
        cases absent : errno.isAbsence <;> grind

/-- Nothing can be said of a path that begins with a name that is too long. -/
theorem probe_of_long {first : String} {rest : List String}
    (normal : (Path.mk .slash (first :: rest)).Normal) (long : nameLimit < first.utf8ByteSize)
    (fits : (Path.mk .slash (first :: rest)).text.utf8ByteSize ≤ pathLimit)
    (clean : '\x00' ∉ (Path.mk .slash (first :: rest)).text.toList) :
    probe tree cwd (Path.mk .slash (first :: rest)).text =
      .error ⟨.nameTooLong, (Path.mk .slash (first :: rest)).text⟩ := by
  have other (short : String) (small : short.utf8ByteSize ≤ nameLimit) : (first == short) = false :=
    beq_eq_false_iff_ne.mpr fun same => absurd (same ▸ long) (Nat.not_lt.mpr small)
  have stepped : step tree linkLimit [] first = .error .nameTooLong := by
    have unempty : first.isEmpty = false := by
      rw [Bool.eq_false_iff, ne_eq, String.isEmpty_iff]
      exact beq_eq_false_iff_ne.mp (other "" (by decide))
    simp only [step, Tree.at?, List.isEmpty_nil, if_true, unempty, other "." (by decide),
      other ".." (by decide), Bool.or_self, Bool.false_eq_true, if_false, if_pos long]
  have rooted : startOf cwd (Path.mk .slash (first :: rest)).text = [] := by
    rw [startOf, is_rooted_text normal]
    rfl
  have filled : (Path.mk .slash (first :: rest)).text.isEmpty = false := by
    rw [text_of_parts .slash (List.cons_ne_nil first rest), Bool.eq_false_iff]
    simp [Anchor.text]
  have walked : walk tree cwd (Path.mk .slash (first :: rest)).text = .error .nameTooLong := by
    rw [walk, filled, if_neg (Nat.not_lt.mpr fits), rooted,
      names_in_text normal (List.cons_ne_nil first rest), follow_cons, stepped]
    rfl
  rw [probe, stat, walked, if_neg (by simpa using clean)]
  rfl

/-- There is an answer for a path that is not too long, with names that are not too long, where nothing
keeps the system from looking. -/
theorem probe_answers (searchable : Searchable tree) {p : Path} (normal : p.Normal)
    (filled : p.parts ≠ []) (names : ∀ part ∈ p.parts, part.utf8ByteSize ≤ nameLimit)
    (fits : p.text.utf8ByteSize ≤ pathLimit) : ∃ answer, probe tree cwd p.text = .ok answer := by
  have walked (why : Errno) (refused : walk tree cwd p.text = .error why) : why.isAbsence = true := by
    rw [walk, if_neg (Nat.not_lt.mpr fits), names_in_text normal filled] at refused
    split at refused
    · cases refused
      rfl
    · exact follow_of_searchable searchable linkLimit _ p.parts names refused
  have stated (why : Errno) (refused : stat tree cwd p.text = .error why) : why.isAbsence = true := by
    rw [stat] at refused
    cases reached : walk tree cwd p.text with
    | error told =>
        rw [reached] at refused
        obtain rfl := Except.error.inj refused
        exact walked told reached
    | ok place =>
        rw [reached] at refused
        simp only [bind, Except.bind] at refused
        split at refused
        · cases refused
        · cases refused
          rfl
  cases looked : probe tree cwd p.text with
  | ok answer => exact ⟨answer, rfl⟩
  | error fault =>
      obtain ⟨_, refused, present, _⟩ := probe_eq_error_iff.mp looked
      exact absurd (stated _ refused) (by simp [present])

end PlaybookLint.Files
