import Mathlib.Data.List.Basic
import PlaybookLint.Files.Host
import PlaybookLint.ProjectRoot
import PlaybookLint.Proofs.Walk

/-!
The nearest root of a project. The search for it asks the directories above a file one by one, the
nearest first, and ends at the first that does not plainly lack the markers. So the root depends on
nothing but what is found of the markers in the directories up to it, and markers elsewhere make no
difference unless the way to a directory or a link leads along them.
-/

namespace PlaybookLint.ProjectRoot

/-! ### Asking one after another -/

section First

variable {α ε : Type} {ask : α → Except ε Bool}

/-- The first of a list for which the answer is not a plain no, and that answer. -/
def First (ask : α → Except ε Bool) (l : List α) (a : α) (answer : Except ε Bool) : Prop :=
  ∃ before after, l = before ++ a :: after ∧ (∀ b ∈ before, ask b = .ok false) ∧ ask a = answer

/-- All answers are a plain no, or there is a first that is not. -/
theorem none_or_first (ask : α → Except ε Bool) (l : List α) :
    (∀ a ∈ l, ask a = .ok false) ∨ ∃ a answer, answer ≠ .ok false ∧ First ask l a answer := by
  induction l with
  | nil => exact .inl nofun
  | cons a rest ih =>
      by_cases no : ask a = .ok false
      · rcases ih with none | ⟨b, answer, yes, before, after, rfl, nos, asked⟩
        · exact .inl (List.forall_mem_cons.mpr ⟨no, none⟩)
        · exact .inr ⟨b, answer, yes, a :: before, after, rfl,
            List.forall_mem_cons.mpr ⟨no, nos⟩, asked⟩
      · exact .inr ⟨a, ask a, no, [], rest, rfl, nofun, rfl⟩

theorem First.mem {l : List α} {a : α} {answer : Except ε Bool} (first : First ask l a answer) :
    a ∈ l := by
  obtain ⟨before, after, rfl, _, _⟩ := first
  exact List.mem_append_cons_self

theorem First.asked {l : List α} {a : α} {answer : Except ε Bool} (first : First ask l a answer) :
    ask a = answer := by
  obtain ⟨_, _, _, _, asked⟩ := first
  exact asked

/-- What goes on behind a plain no goes on behind any number of them. -/
theorem passed_over {β : Type} {F : List α → β}
    (pass : ∀ a rest, ask a = .ok false → F (a :: rest) = F rest) {before : List α}
    (nos : ∀ b ∈ before, ask b = .ok false) (l : List α) : F (before ++ l) = F l := by
  induction before with
  | nil => rfl
  | cons b before ih =>
      obtain ⟨no, nos⟩ := List.forall_mem_cons.mp nos
      rw [List.cons_append, pass b _ no, ih nos]

theorem any_pass (a : α) (rest : List α) (no : ask a = .ok false) :
    (a :: rest).anyM ask = rest.anyM ask := by
  rw [List.anyM, no]
  rfl

theorem any_of_none {l : List α} (none : ∀ a ∈ l, ask a = .ok false) : l.anyM ask = .ok false := by
  have passed := passed_over any_pass none []
  rw [List.append_nil] at passed
  exact passed

/-- The first answer that is not a plain no is the answer for the list. -/
theorem any_of_first {l : List α} {a : α} {answer : Except ε Bool} (first : First ask l a answer)
    (other : answer ≠ .ok false) : l.anyM ask = answer := by
  obtain ⟨before, after, rfl, nos, asked⟩ := first
  rw [passed_over (F := (List.anyM ask ·)) any_pass nos, List.anyM, asked]
  match answer, other with
  | .error fault, _ => rfl
  | .ok true, _ => rfl

/-- The answer for a list, if it is not a plain no, is that for its first with such an answer. -/
theorem any_eq_iff {l : List α} {answer : Except ε Bool} (other : answer ≠ .ok false) :
    l.anyM ask = answer ↔ ∃ a, First ask l a answer := by
  constructor
  · intro told
    rcases none_or_first ask l with none | ⟨a, answer', other', first⟩
    · exact absurd (told.symm.trans (any_of_none none)) other
    · rw [← told, any_of_first first other']
      exact ⟨a, first⟩
  · rintro ⟨a, first⟩
    exact any_of_first first other

theorem any_congr {ask' : α → Except ε Bool} {l : List α} (same : ∀ a ∈ l, ask' a = ask a) :
    l.anyM ask' = l.anyM ask := by
  induction l with
  | nil => rfl
  | cons a rest ih =>
      obtain ⟨here, later⟩ := List.forall_mem_cons.mp same
      rw [List.anyM, List.anyM, here, ih later]

theorem any_eq_false_iff {l : List α} : l.anyM ask = .ok false ↔ ∀ a ∈ l, ask a = .ok false := by
  constructor
  · intro told
    rcases none_or_first ask l with none | ⟨a, answer, other, first⟩
    · exact none
    · exact absurd ((any_of_first first other).symm.trans told) other
  · exact any_of_none

end First

/-! ### Markers in a directory -/

variable {probe probe' : Path → Except AccessFault Bool} {d root : Path} {fault : AccessFault}

/-- A marker is found in the directory. -/
def Holds (probe : Path → Except AccessFault Bool) (d : Path) : Prop :=
  ∃ marker ∈ markers, probe (d.child marker) = .ok true

/-- No marker is found in the directory, and none is refused. -/
def Lacks (probe : Path → Except AccessFault Bool) (d : Path) : Prop :=
  ∀ marker ∈ markers, probe (d.child marker) = .ok false

/-- Looking for a marker in the directory is refused, and no marker before it is found. -/
def Refuses (probe : Path → Except AccessFault Bool) (d : Path) (fault : AccessFault) : Prop :=
  ∃ marker, First (fun marker => probe (d.child marker)) markers marker (.error fault)

theorem is_marked_false_iff : isMarked probe d = .ok false ↔ Lacks probe d := any_eq_false_iff

theorem is_marked_error_iff : isMarked probe d = .error fault ↔ Refuses probe d fault :=
  any_eq_iff nofun

theorem Lacks.not_holds (lacks : Lacks probe d) : ¬Holds probe d := by
  rintro ⟨marker, member, found⟩
  cases (lacks marker member).symm.trans found

theorem holds_of_is_marked (marked : isMarked probe d = .ok true) : Holds probe d := by
  obtain ⟨marker, first⟩ := (any_eq_iff (by decide)).mp marked
  exact ⟨marker, first.mem, first.asked⟩

theorem is_marked_congr
    (same : ∀ marker ∈ markers, probe' (d.child marker) = probe (d.child marker)) :
    isMarked probe' d = isMarked probe d := any_congr same

/-! ### The search -/

theorem first_marked_pass (d : Path) (rest : List Path) (no : isMarked probe d = .ok false) :
    firstMarked? probe (d :: rest) = firstMarked? probe rest := by
  rw [firstMarked?, no]
  rfl

theorem first_marked_of_none {l : List Path} (none : ∀ d ∈ l, isMarked probe d = .ok false) :
    firstMarked? probe l = .ok Option.none := by
  have passed := passed_over first_marked_pass none []
  rw [List.append_nil] at passed
  exact passed

theorem first_marked_of_first {l : List Path} {answer : Except AccessFault Bool}
    (first : First (isMarked probe) l d answer) (other : answer ≠ .ok false) :
    firstMarked? probe l = answer.map fun _ => some d := by
  obtain ⟨before, after, rfl, nos, asked⟩ := first
  rw [passed_over first_marked_pass nos, firstMarked?, asked]
  match answer, other with
  | .error fault, _ => rfl
  | .ok true, _ => rfl

/-! ### The directories above a file -/

theorem shorten_pairwise (parts : List String) :
    (Path.shorten parts).Pairwise fun longer shorter => shorter <+: longer ∧ shorter ≠ longer := by
  induction parts with
  | nil => exact List.pairwise_singleton _ _
  | cons part rest ih =>
      rw [Path.shorten, List.pairwise_append, List.pairwise_map]
      refine ⟨ih.imp ?_, List.pairwise_singleton _ _, ?_⟩
      · rintro longer shorter ⟨before, apart⟩
        exact ⟨(List.prefix_cons_inj part).mpr before, fun same => apart (List.cons.inj same).2⟩
      · intro longer member shorter last
        obtain ⟨other, _, rfl⟩ := List.mem_map.mp member
        rw [List.mem_singleton.mp last]
        exact ⟨List.nil_prefix, (List.cons_ne_nil part other).symm⟩

/-- Going up, each directory lies above those before it. -/
theorem upward_pairwise (p : Path) :
    p.upward.Pairwise fun nearer d => d ∈ nearer.upward ∧ d ≠ nearer := by
  rw [Path.upward, List.pairwise_map]
  refine (shorten_pairwise p.parts).imp ?_
  rintro longer shorter ⟨before, apart⟩
  exact ⟨(Path.mem_upward_iff _ _).mpr ⟨rfl, before⟩, fun same => apart (Path.mk.inj same).2⟩

theorem upward_antisymm {p q : Path} (below : p ∈ q.upward) (above : q ∈ p.upward) : p = q := by
  obtain ⟨anchor, before⟩ := (Path.mem_upward_iff q p).mp below
  obtain ⟨_, after⟩ := (Path.mem_upward_iff p q).mp above
  obtain ⟨anchor', parts⟩ := p
  obtain rfl : anchor' = q.anchor := anchor
  obtain rfl : parts = q.parts := before.eq_of_length_le after.length_le
  rfl

/-- The directory is one of those from the file's own up to the root. -/
def UpTo (file root d : Path) : Prop := d ∈ file.parent.upward ∧ root ∈ d.upward

variable {file : Path}

/-- Those that come before the root on the way up are the others up to the root. -/
theorem up_to_iff {nearer further : List Path}
    (cut : file.parent.upward = nearer ++ root :: further) (d : Path) :
    UpTo file root d ↔ d ∈ nearer ∨ d = root := by
  have ordered := upward_pairwise file.parent
  rw [cut, List.pairwise_append] at ordered
  obtain ⟨_, above, before⟩ := ordered
  rw [UpTo, cut, List.mem_append, List.mem_cons]
  constructor
  · rintro ⟨near | rfl | far, below⟩
    · exact .inl near
    · exact .inr rfl
    · have higher := (List.pairwise_cons.mp above).1 d far
      exact .inr (upward_antisymm higher.1 below)
  · rintro (near | rfl)
    · exact ⟨.inl near, (before d near root List.mem_cons_self).1⟩
    · exact ⟨.inr (.inl rfl), (Path.mem_upward_iff d d).mpr ⟨rfl, List.prefix_refl _⟩⟩

/-! ### The root that is found -/

theorem find_of_first (first : First (isMarked probe) file.parent.upward root (.ok true)) :
    find probe file = .ok root := by
  rw [find, first_marked_of_first first (by decide)]
  rfl

theorem find_of_none (none : ∀ d ∈ file.parent.upward, isMarked probe d = .ok false) :
    find probe file = .ok file.parent := by
  rw [find, first_marked_of_none none]
  rfl

theorem find_of_refused (first : First (isMarked probe) file.parent.upward d (.error fault)) :
    find probe file = .error fault := by
  rw [find, first_marked_of_first first nofun]
  rfl

/-- No directory holds a marker, or there is a first that does or refuses. -/
theorem find_cases (probe : Path → Except AccessFault Bool) (file : Path) :
    ((∀ d ∈ file.parent.upward, isMarked probe d = .ok false) ∧
      find probe file = .ok file.parent) ∨
    (∃ root, First (isMarked probe) file.parent.upward root (.ok true) ∧
      find probe file = .ok root) ∨
    ∃ d fault, First (isMarked probe) file.parent.upward d (.error fault) ∧
      find probe file = .error fault := by
  rcases none_or_first (isMarked probe) file.parent.upward with none | ⟨d, answer, other, first⟩
  · exact .inl ⟨none, find_of_none none⟩
  · match answer, other with
    | .ok true, _ => exact .inr (.inl ⟨d, first, find_of_first first⟩)
    | .error fault, _ => exact .inr (.inr ⟨d, fault, first, find_of_refused first⟩)

theorem find_error_iff : find probe file = .error fault ↔
    ∃ nearer d further, file.parent.upward = nearer ++ d :: further ∧
      (∀ n ∈ nearer, Lacks probe n) ∧ Refuses probe d fault := by
  simp only [← is_marked_false_iff, ← is_marked_error_iff]
  constructor
  · intro refused
    rcases find_cases probe file with ⟨_, found⟩ | ⟨root, _, found⟩ | ⟨d, fault', first, found⟩
    · cases found.symm.trans refused
    · cases found.symm.trans refused
    · obtain rfl := Except.error.inj (found.symm.trans refused)
      obtain ⟨nearer, further, cut, none, refuses⟩ := first
      exact ⟨nearer, d, further, cut, none, refuses⟩
  · rintro ⟨nearer, d, further, cut, none, refuses⟩
    exact find_of_refused ⟨nearer, further, cut, none, refuses⟩

/-- What the root of a file's project is: the nearest directory on the way up that holds a marker, and
the file's own if there is none. -/
structure Nearest (probe : Path → Except AccessFault Bool) (file root : Path) : Prop where
  above : root ∈ file.parent.upward
  marked : (∃ d ∈ file.parent.upward, Holds probe d) →
    Holds probe root ∧ ∀ d, UpTo file root d → d ≠ root → Lacks probe d
  own : (∀ d ∈ file.parent.upward, ¬Holds probe d) → root = file.parent

theorem nearest_of_find (found : find probe file = .ok root) : Nearest probe file root := by
  rcases find_cases probe file with ⟨none, own⟩ | ⟨root', first, found'⟩ | ⟨d, fault, _, refused⟩
  · obtain rfl := Except.ok.inj (own.symm.trans found)
    refine ⟨(Path.mem_upward_iff _ _).mpr ⟨rfl, List.prefix_refl _⟩, ?_, fun _ => rfl⟩
    rintro ⟨d, member, holds⟩
    exact absurd holds (is_marked_false_iff.mp (none d member)).not_holds
  · obtain rfl := Except.ok.inj (found'.symm.trans found)
    have holds := holds_of_is_marked first.asked
    refine ⟨first.mem, fun _ => ⟨holds, fun d upTo other => ?_⟩,
      fun none => absurd holds (none root' first.mem)⟩
    obtain ⟨nearer, further, cut, none, _⟩ := first
    exact is_marked_false_iff.mp (none d (((up_to_iff cut d).mp upTo).resolve_right other))
  · cases refused.symm.trans found

/-- The root depends only on what is found of the markers in the directories up to it. -/
theorem find_congr (found : find probe file = .ok root) (holds : Holds probe root)
    (same : ∀ d, UpTo file root d → ∀ marker ∈ markers,
      probe' (d.child marker) = probe (d.child marker)) : find probe' file = .ok root := by
  rcases find_cases probe file with ⟨none, own⟩ | ⟨root', first, found'⟩ | ⟨d, fault, _, refused⟩
  · obtain rfl := Except.ok.inj (own.symm.trans found)
    have member := (nearest_of_find found).above
    exact absurd holds (is_marked_false_iff.mp (none _ member)).not_holds
  · obtain rfl := Except.ok.inj (found'.symm.trans found)
    obtain ⟨nearer, further, cut, none, marked⟩ := first
    have asked (d : Path) (among : d ∈ nearer ∨ d = root') : isMarked probe' d = isMarked probe d :=
      is_marked_congr (same d ((up_to_iff cut d).mpr among))
    refine find_of_first ⟨nearer, further, cut, fun n near => ?_, ?_⟩
    · rw [asked n (.inl near), none n near]
    · rw [asked root' (.inr rfl), marked]
  · cases refused.symm.trans found

/-! ### Refusals -/

theorem markers_are_parts :
    ∀ marker ∈ markers, Path.isPart marker.toList = true ∧ '/' ∉ marker.toList := by decide

theorem markers_short : ∀ marker ∈ markers, marker.utf8ByteSize ≤ Files.nameLimit := by decide

theorem upward_parts {p : Path} (above : d ∈ p.parent.upward) :
    d.anchor = p.anchor ∧ ∀ part ∈ d.parts, part ∈ p.parent.parts := by
  obtain ⟨anchor, before⟩ := (Path.mem_upward_iff p.parent d).mp above
  exact ⟨anchor, fun part member => before.subset member⟩

theorem upward_normal (normal : file.Normal) (above : d ∈ file.parent.upward) : d.Normal :=
  fun part member => normal part (List.dropLast_subset _ ((upward_parts above).2 part member))

/-- Nothing keeps the system from looking for the markers: no directory bars the way, names that are too
long are neither on the way to the file's directory nor on that of a link, and the texts that are looked
for fit. -/
structure Searchable (host : Host) (file : Path) : Prop where
  way : ∀ name ∈ file.parent.parts, name.utf8ByteSize ≤ Files.nameLimit
  tree : Files.Searchable host.tree
  texts : ∀ d ∈ file.parent.upward, ∀ marker ∈ markers,
    (d.child marker).text.utf8ByteSize ≤ Files.pathLimit

/-- What is told of a refusal is the path of the marker that was looked for, and why the system refused,
which is not that something is missing. -/
theorem find_fault {host : Host} (refused : find host.probe file = .error fault) :
    ∃ d ∈ file.parent.upward, ∃ marker ∈ markers, fault.path = (d.child marker).text ∧
      fault.errno.isAbsence = false ∧
      Files.stat host.tree host.cwd fault.path = .error fault.errno := by
  obtain ⟨nearer, d, further, cut, _, marker, first⟩ := find_error_iff.mp refused
  obtain ⟨_, told, present, path⟩ := Files.probe_eq_error_iff.mp first.asked
  exact ⟨d, cut ▸ List.mem_append_cons_self, marker, first.mem, path, present, path ▸ told⟩

theorem find_answers {host : Host} (normal : file.Normal) (searchable : Searchable host file) :
    ∃ root, find host.probe file = .ok root := by
  cases found : find host.probe file with
  | ok root => exact ⟨root, rfl⟩
  | error fault =>
      obtain ⟨nearer, d, further, cut, _, marker, first⟩ := find_error_iff.mp found
      have above : d ∈ file.parent.upward := cut ▸ List.mem_append_cons_self
      obtain ⟨named, single⟩ := markers_are_parts marker first.mem
      have names : ∀ name ∈ d.parts ++ [marker], name.utf8ByteSize ≤ Files.nameLimit := by
        intro name inside
        rcases List.mem_append.mp inside with before | last
        · exact searchable.way name ((upward_parts above).2 name before)
        · exact List.mem_singleton.mp last ▸ markers_short marker first.mem
      have fits := searchable.texts d above marker first.mem
      rw [Files.child_of_part d named single] at fits
      have answers : ∃ answer, Files.probe host.tree host.cwd
          (Path.mk d.anchor (d.parts ++ [marker])).text = .ok answer :=
        Files.probe_answers searchable.tree (Files.below_normal (upward_normal normal above) named single)
          (List.append_ne_nil_of_right_ne_nil d.parts (List.cons_ne_nil marker [])) names fits
      rw [← Files.child_of_part d named single] at answers
      obtain ⟨answer, told⟩ := answers
      cases told.symm.trans first.asked

/-! ### Markers elsewhere -/

/-- No name of a marker is on the way to the file's directory, and no link leads along one. -/
structure Unmarked (host : Host) (file : Path) : Prop where
  start : (Files.startOf host.cwd file.parent.text).Disjoint markers
  way : file.parent.parts.Disjoint markers
  links : ∀ (place : Files.Place) (target : String), host.tree.at? place = some (.link target) →
    (Files.namesIn target).Disjoint markers

/-- The trees differ in nothing but markers and what is below them, and those are in none of the
directories that are kept. -/
def MarkersElsewhere (host : Host) (tree' : Files.Tree) (kept : Path → Prop) : Prop :=
  ∀ place, tree'.at? place ≠ host.tree.at? place →
    ∃ above marker below, marker ∈ markers ∧ place = above ++ marker :: below ∧
      ∀ d, kept d → Files.walk host.tree host.cwd d.text ≠ .ok above

theorem differ_above {above above' : Files.Place} {marker marker' : String} {below : List String}
    (clear : above.Disjoint markers) (member : marker' ∈ markers)
    (same : above ++ [marker] = above' ++ marker' :: below) : above = above' := by
  rcases List.eq_nil_or_concat below with rfl | ⟨inner, last, rfl⟩
  · exact (List.append_inj' same rfl).1
  · have inside : above = above' ++ marker' :: inner := by
      rw [List.concat_eq_append, ← List.cons_append, ← List.append_assoc] at same
      exact (List.append_inj' same rfl).1
    exact absurd member (clear (inside ▸ List.mem_append_cons_self))

/-- Markers elsewhere make no difference to what is found in the directories that are kept. -/
theorem probe_elsewhere {host : Host} {tree' : Files.Tree} {kept : Path → Prop}
    (normal : file.Normal) (unmarked : Unmarked host file)
    (elsewhere : MarkersElsewhere host tree' kept) (above : d ∈ file.parent.upward) (keep : kept d)
    {marker : String} (member : marker ∈ markers) :
    Host.probe { host with tree := tree' } (d.child marker) = host.probe (d.child marker) := by
  obtain ⟨anchor, parts⟩ := upward_parts above
  have start : Files.startOf host.cwd d.text = Files.startOf host.cwd file.parent.text := by
    have rooted : d.isAbsolute = file.parent.isAbsolute := by
      rw [Path.isAbsolute, anchor]
      rfl
    rw [Files.startOf, Files.startOf, Files.is_rooted_text (upward_normal normal above),
      Files.is_rooted_text fun part inside => normal part (List.dropLast_subset _ inside), rooted]
  have alike : Files.Alike markers host.tree tree' := by
    refine ⟨fun place clear => ?_, unmarked.links⟩
    by_contra differ
    obtain ⟨before, other, below, among, rfl, _⟩ := elsewhere place differ
    exact clear List.mem_append_cons_self among
  refine Files.probe_child_alike alike (upward_normal normal above) (start ▸ unmarked.start)
    (fun part inside => unmarked.way (parts part inside)) (markers_are_parts marker member).1
    (markers_are_parts marker member).2 fun reached clear walked => ?_
  by_contra differ
  obtain ⟨before, other, below, among, same, apart⟩ := elsewhere _ differ
  exact apart d keep (differ_above clear among same ▸ walked)

/-- The root of a file's project is found unless the system refuses to look for a marker on the way; it
is the nearest directory above the file that holds a marker, or the file's own; and markers elsewhere
than in the directories up to it make no difference. -/
theorem nearest_root (host : Host) (target : String) :
    (∀ fault, find host.probe (Path.ofText target) = .error fault ↔
      ∃ nearer d further, (Path.ofText target).parent.upward = nearer ++ d :: further ∧
        (∀ n ∈ nearer, Lacks host.probe n) ∧ Refuses host.probe d fault) ∧
    (∀ fault, find host.probe (Path.ofText target) = .error fault →
      ∃ d ∈ (Path.ofText target).parent.upward, ∃ marker ∈ markers,
        fault.path = (d.child marker).text ∧ fault.errno.isAbsence = false ∧
        Files.stat host.tree host.cwd fault.path = .error fault.errno) ∧
    (Searchable host (Path.ofText target) → ∃ root, find host.probe (Path.ofText target) = .ok root) ∧
    ∀ root, find host.probe (Path.ofText target) = .ok root →
      Nearest host.probe (Path.ofText target) root ∧
      (Holds host.probe root →
        (∀ host' : Host, (∀ d, UpTo (Path.ofText target) root d → ∀ marker ∈ markers,
            host'.probe (d.child marker) = host.probe (d.child marker)) →
          find host'.probe (Path.ofText target) = .ok root) ∧
        ∀ tree', Unmarked host (Path.ofText target) →
          MarkersElsewhere host tree' (UpTo (Path.ofText target) root) →
          find (Host.probe { host with tree := tree' }) (Path.ofText target) = .ok root) := by
  refine ⟨fun fault => find_error_iff, fun fault => find_fault,
    find_answers (Path.of_text_normal target),
    fun root found => ⟨nearest_of_find found, fun holds => ⟨fun host' same => ?_, ?_⟩⟩⟩
  · exact find_congr found holds same
  · intro tree' unmarked elsewhere
    exact find_congr found holds fun d upTo marker member =>
      probe_elsewhere (Path.of_text_normal target) unmarked elsewhere upTo.1 upTo member

/-- A site with a repository of its own, seen from the directory that it is in. -/
def site : Host :=
  .plain [(["srv"], .directory), (["srv", "site"], .directory),
    (["srv", "site", ".git"], .directory), (["srv", "site", "roles"], .directory)] ["srv"] []

/-- A repository is made around the site. -/
def surrounded : Files.Tree :=
  [(["srv", ".git"], .directory), (["srv", ".git", "config"], .file [] false)] ++ site.tree

/-- The site has nothing but directories. -/
theorem site_directories {place : Files.Place} {node : Files.Node}
    (there : site.tree.at? place = some node) : node = .directory := by
  have plain : ∀ entry ∈ site.tree, entry.2 = .directory := by decide
  rw [Files.Tree.at?] at there
  split at there
  · exact (Option.some.inj there).symm
  · obtain ⟨before, after, cut, _⟩ := List.lookup_eq_some_iff.mp there
    exact plain (place, node) (cut ▸ List.mem_append_cons_self)

theorem site_unlinked (place : Files.Place) (target : String) :
    site.tree.at? place ≠ some (.link target) := fun link => nomatch site_directories link

theorem site_unmarked : Unmarked site (Path.ofText "site/roles/main.yml") where
  start := List.disjoint_left.mpr (by decide)
  way := List.disjoint_left.mpr (by decide)
  links := fun place target link => absurd link (site_unlinked place target)

theorem site_searchable : Searchable site (Path.ofText "site/roles/main.yml") where
  way := by decide +kernel
  tree := ⟨fun place target link => absurd link (site_unlinked place target),
    fun _ _ _ door => nomatch site_directories door⟩
  texts := by decide +kernel

theorem surrounded_elsewhere : MarkersElsewhere site surrounded
    (UpTo (Path.ofText "site/roles/main.yml") (Path.ofText "site")) := by
  have apart : ∀ d ∈ (Path.ofText "site/roles/main.yml").parent.upward, Path.ofText "site" ∈ d.upward →
      Files.walk site.tree site.cwd d.text ≠ .ok ["srv"] := by decide +kernel
  have kept (d : Path) (upTo : UpTo (Path.ofText "site/roles/main.yml") (Path.ofText "site") d) :
      Files.walk site.tree site.cwd d.text ≠ .ok ["srv"] := apart d upTo.1 upTo.2
  intro place differ
  by_cases repository : place = ["srv", ".git"]
  · exact ⟨["srv"], ".git", [], by decide, repository, kept⟩
  · by_cases inside : place = ["srv", ".git", "config"]
    · exact ⟨["srv"], ".git", ["config"], by decide, inside, kept⟩
    · refine absurd ?_ differ
      simp only [surrounded, Files.Tree.at?, List.cons_append, List.nil_append, List.lookup_cons,
        beq_eq_false_iff_ne.mpr repository, beq_eq_false_iff_ne.mpr inside]

theorem site_kept_amid_markers :
    ∃ root, find site.probe (Path.ofText "site/roles/main.yml") = .ok root ∧ root.text = "site" ∧
      find (Host.probe { site with tree := surrounded }) (Path.ofText "site/roles/main.yml") =
        .ok root := by
  obtain ⟨_, _, answers, kept⟩ := nearest_root site "site/roles/main.yml"
  obtain ⟨root, found⟩ := answers site_searchable
  have known : find site.probe (Path.ofText "site/roles/main.yml") = .ok (Path.ofText "site") := by
    decide +kernel
  obtain rfl := Except.ok.inj (found.symm.trans known)
  have holds : Holds site.probe (Path.ofText "site") := ⟨".git", by decide, by decide +kernel⟩
  exact ⟨_, found, by decide, ((kept _ found).2 holds).2 surrounded site_unmarked
    surrounded_elsewhere⟩

/-- A site whose marker leads to one that is elsewhere. -/
def leaning : Host :=
  .plain [(["etc"], .directory), (["srv"], .directory), (["srv", "site"], .directory),
    (["srv", "site", ".ansible-lint"], .link "/etc/.ansible-lint"),
    (["srv", "site", "roles"], .directory), (["etc", ".ansible-lint"], .file [] false)] [] []

/-- A site in a directory that only its owner may search. -/
def closedSite : Host :=
  .plain [(["srv"], .barred .permission true), (["srv", "site"], .directory)] [] []

/-- A name of one octet more than a name may have. -/
def longName : String := String.ofList (List.replicate 256 'a')

theorem text_below_root (name file : String) :
    (Path.mk .slash [name, file]).text = "/" ++ name ++ ("/" ++ file) := by
  rw [Files.text_of_parts .slash (List.cons_ne_nil _ _), String.intercalate_cons_cons,
    String.intercalate_singleton, String.append_assoc, String.append_assoc]
  rfl

theorem long_name_letters : longName.toList = List.replicate 256 'a' := String.toList_ofList

theorem mem_long_name {c : Char} (member : c ∈ longName.toList) : c = 'a' := by
  rw [long_name_letters] at member
  exact List.eq_of_mem_replicate member

theorem long_name_normal {file : String}
    (named : Path.isPart file.toList = true ∧ '/' ∉ file.toList) :
    (Path.mk .slash [longName, file]).Normal := by
  have long : Path.isPart longName.toList = true := by
    rw [long_name_letters]
    rfl
  rw [Path.Normal, List.forall_mem_cons, List.forall_mem_singleton]
  exact ⟨⟨long, fun slash => absurd (mem_long_name slash) (by decide)⟩, named⟩

theorem long_name_clean {file : String} (clean : '\x00' ∉ file.toList) :
    '\x00' ∉ (Path.mk .slash [longName, file]).text.toList := by
  rw [text_below_root]
  simp only [String.toList_append, List.mem_append, not_or]
  exact ⟨⟨by decide, fun null => absurd (mem_long_name null) (by decide)⟩, by decide, clean⟩

/-- The root is not told for a file in a directory whose name is too long, nor for one below a directory
that may not be searched; and a marker that is in none of the directories up to the root makes a
difference if a link leads to it. -/
theorem long_name_refused :
    find (Host.plain [] [] []).probe (Path.ofText ("/" ++ longName ++ "/site.yml")) =
      .error ⟨.nameTooLong, "/" ++ longName ++ "/.ansible-lint"⟩ ∧
    find closedSite.probe (Path.ofText "/srv/site/main.yml") =
      .error ⟨.permission, "/srv/site/.ansible-lint"⟩ ∧
    find leaning.probe (Path.ofText "/srv/site/roles/main.yml") = .ok (Path.ofText "/srv/site") ∧
    find (Host.probe { leaning with tree := leaning.tree.dropLast })
      (Path.ofText "/srv/site/roles/main.yml") = .ok (Path.ofText "/srv/site/roles") := by
  refine ⟨?_, by decide +kernel, by decide +kernel, by decide +kernel⟩
  have read : Path.ofText ("/" ++ longName ++ "/site.yml") = ⟨.slash, [longName, "site.yml"]⟩ := by
    have text : Path.ofText (Path.mk .slash [longName, "site.yml"]).text = _ :=
      Path.of_text_text (long_name_normal (by decide))
    rwa [text_below_root] at text
  have marker : (Path.mk .slash [longName]).child ".ansible-lint" =
      ⟨.slash, [longName, ".ansible-lint"]⟩ :=
    Files.child_of_part _ (by decide) (by decide)
  have refused : (Host.plain [] [] []).probe ((Path.mk .slash [longName]).child ".ansible-lint") =
      .error ⟨.nameTooLong, "/" ++ longName ++ "/.ansible-lint"⟩ := by
    rw [marker, Host.probe, Files.probe_of_long (long_name_normal (by decide)) (by decide +kernel)
      (by decide +kernel) (long_name_clean (by decide)), text_below_root]
    rfl
  rw [read, find_error_iff]
  exact ⟨[], ⟨.slash, [longName]⟩, [⟨.slash, []⟩], rfl, nofun, ".ansible-lint", [], [".git"], rfl,
    nofun, refused⟩

end PlaybookLint.ProjectRoot
