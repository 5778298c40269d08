import PlaybookLint.Proofs.PathText

/-!
The texts of paths. Cutting a text at a slash cuts its parts, so segments that name nothing can be
written anywhere without a change of the path; and a path in normal form is read back from its text.
-/

namespace PlaybookLint.Path

/-! ### Pieces between slashes -/

theorem split_slashes_ne_nil (s : List Char) : splitSlashes s ≠ [] := by
  fun_cases splitSlashes s <;> exact List.cons_ne_nil _ _

/-- A slash begins a new piece. -/
theorem split_slashes_append (a b : List Char) :
    splitSlashes (a ++ '/' :: b) = splitSlashes a ++ splitSlashes b := by
  fun_induction splitSlashes a with
  | case1 => rfl
  | case2 rest ih => rw [List.cons_append, splitSlashes, ih, List.cons_append]
  | case3 c rest inside none ih => exact absurd none (split_slashes_ne_nil rest)
  | case4 c rest inside piece pieces cut ih =>
      rw [cut, List.cons_append] at ih
      rw [List.cons_append, splitSlashes, ih, List.cons_append]
      exact inside

theorem slash_not_in_piece {s piece : List Char} (among : piece ∈ splitSlashes s) :
    '/' ∉ piece := by
  fun_induction splitSlashes s generalizing piece with
  | case1 =>
      rw [List.mem_singleton.mp among]
      exact List.not_mem_nil
  | case2 rest ih =>
      rcases List.mem_cons.mp among with rfl | later
      · exact List.not_mem_nil
      · exact ih later
  | case3 c rest inside none ih => exact absurd none (split_slashes_ne_nil rest)
  | case4 c rest inside first pieces cut ih =>
      rcases List.mem_cons.mp among with rfl | later
      · rw [List.mem_cons, not_or]
        exact ⟨fun slash => inside slash.symm, ih (cut ▸ List.mem_cons_self)⟩
      · exact ih (cut ▸ List.mem_cons_of_mem first later)

theorem split_slashes_piece {piece : List Char} (plain : '/' ∉ piece) :
    splitSlashes piece = [piece] := by
  induction piece with
  | nil => rfl
  | cons c rest ih =>
      rw [List.mem_cons, not_or] at plain
      rw [splitSlashes, ih plain.2]
      exact fun slash => plain.1 slash.symm

/-- The parts before a slash are followed by those behind it. -/
theorem parts_of_append (a b : List Char) : partsOf (a ++ '/' :: b) = partsOf a ++ partsOf b := by
  rw [partsOf, split_slashes_append, List.filter_append, List.map_append, partsOf, partsOf]

/-- Nothing stands before a slash in front. -/
theorem parts_of_slash (s : List Char) : partsOf ('/' :: s) = partsOf s := parts_of_append [] s

/-- A single dot as a segment is no part. -/
theorem parts_of_dot_slash (s : List Char) : partsOf ('.' :: '/' :: s) = partsOf s :=
  parts_of_append ['.'] s

/-! ### Anchors -/

/-- A text without a slash in front has no anchor. -/
theorem anchor_of_eq_here_iff (s : List Char) : anchorOf s = .here ↔ s.head? ≠ some '/' := by
  fun_cases anchorOf s with
  | case1 rest => exact iff_of_false nofun fun plain => plain rfl
  | case2 rest inner => exact iff_of_false nofun fun plain => plain rfl
  | case3 rest inner outer => exact iff_of_false nofun fun plain => plain rfl
  | case4 s third second first =>
      refine iff_of_true rfl fun slash => ?_
      obtain ⟨rest, cut⟩ := List.head?_eq_some_iff.mp slash
      exact first rest cut

/-- An anchor in front of a text without one is read back. -/
theorem anchor_of_append (anchor : Anchor) {s : List Char} (plain : anchorOf s = .here) :
    anchorOf (anchor.text.toList ++ s) = anchor := by
  rw [anchor_of_eq_here_iff] at plain
  cases s with
  | nil => cases anchor <;> rfl
  | cons c rest =>
      have other : c ≠ '/' := fun slash => plain (congrArg some slash)
      cases anchor with
      | here => exact (anchor_of_eq_here_iff _).mpr plain
      | slash =>
          show anchorOf ('/' :: c :: rest) = .slash
          simp [anchorOf, other]
      | doubleSlash =>
          show anchorOf ('/' :: '/' :: c :: rest) = .doubleSlash
          simp [anchorOf, other]

/-- Whether a text has an anchor is settled before any slash inside it. -/
theorem anchor_of_edit {a b : List Char} (plain : anchorOf (a ++ '/' :: b) = .here)
    (t : List Char) : anchorOf (a ++ '/' :: t) = .here := by
  rw [anchor_of_eq_here_iff] at plain ⊢
  cases a with
  | nil => exact absurd rfl plain
  | cons c a => exact plain

/-- The slashes of an anchor stand before the parts. -/
theorem parts_of_anchored (anchor : Anchor) (s : List Char) :
    partsOf (anchor.text.toList ++ s) = partsOf s := by
  cases anchor with
  | here => rfl
  | slash => exact parts_of_slash s
  | doubleSlash => exact (parts_of_slash ('/' :: s)).trans (parts_of_slash s)

/-! ### Normal form -/

/-- Every part of the path names something and is a single piece. -/
def Normal (p : Path) : Prop := ∀ part ∈ p.parts, isPart part.toList = true ∧ '/' ∉ part.toList

theorem of_text_normal (s : String) : (ofText s).Normal := by
  intro part member
  obtain ⟨piece, among, same⟩ := List.mem_map.mp member
  obtain ⟨inside, named⟩ := List.mem_filter.mp among
  rw [← same, String.toList_ofList]
  exact ⟨named, slash_not_in_piece inside⟩

theorem child_normal (directory name : String) : ((ofText directory).child name).Normal :=
  join_satisfies (of_text_normal directory) (of_text_normal name)

/-- Parts that are written with slashes between them are the pieces of the text. -/
theorem split_slashes_written {parts : List String} (filled : parts ≠ [])
    (plain : ∀ part ∈ parts, '/' ∉ part.toList) :
    splitSlashes ("/".intercalate parts).toList = parts.map String.toList := by
  rw [String.toList_intercalate]
  induction parts with
  | nil => exact absurd rfl filled
  | cons part rest ih =>
      have alone := split_slashes_piece (plain part List.mem_cons_self)
      cases rest with
      | nil => simpa using alone
      | cons next rest =>
          have later := ih (List.cons_ne_nil next rest)
            fun other member => plain other (List.mem_cons_of_mem part member)
          rw [List.map_cons, List.map_cons, List.intercalate_cons_cons, ← List.map_cons]
          have cut : part.toList ++ "/".toList ++
              "/".toList.intercalate ((next :: rest).map String.toList) =
              part.toList ++ '/' :: "/".toList.intercalate ((next :: rest).map String.toList) := by
            rw [List.append_assoc]
            rfl
          rw [cut, split_slashes_append, alone, later]
          rfl

/-- The parts that are written with slashes between them are read back. -/
theorem parts_of_written {parts : List String}
    (normal : ∀ part ∈ parts, isPart part.toList = true ∧ '/' ∉ part.toList) :
    partsOf ("/".intercalate parts).toList = parts := by
  cases parts with
  | nil => rfl
  | cons part rest =>
      have named : ∀ piece ∈ (part :: rest).map String.toList, isPart piece = true := by
        intro piece member
        obtain ⟨other, among, rfl⟩ := List.mem_map.mp member
        exact (normal other among).1
      have same : (String.ofList ∘ String.toList : String → String) = id :=
        funext fun _ => String.ofList_toList
      rw [partsOf, split_slashes_written (List.cons_ne_nil part rest)
        fun other member => (normal other member).2, List.filter_eq_self.mpr named, List.map_map, same,
        List.map_id]

theorem written_plain {parts : List String}
    (normal : ∀ part ∈ parts, isPart part.toList = true ∧ '/' ∉ part.toList) :
    anchorOf ("/".intercalate parts).toList = .here := by
  rw [String.toList_intercalate, anchor_of_eq_here_iff]
  cases parts with
  | nil => nofun
  | cons part rest =>
      obtain ⟨named, plain⟩ := normal part List.mem_cons_self
      cases letters : part.toList with
      | nil =>
          rw [letters] at named
          cases named
      | cons c inner =>
          have other : some c ≠ some '/' := by
            intro slash
            rw [letters, Option.some.inj slash] at plain
            exact plain List.mem_cons_self
          cases rest with
          | nil => simpa only [List.map_cons, List.map_nil, List.intercalate_singleton, letters,
              List.head?_cons] using other
          | cons next rest => simpa only [List.map_cons, List.intercalate_cons_cons, letters,
              List.cons_append, List.head?_cons] using other

/-- A path in normal form is read back from its text. -/
theorem of_text_text {p : Path} (normal : p.Normal) : ofText p.text = p := by
  obtain ⟨anchor, parts⟩ := p
  have read : ofText (anchor.text ++ "/".intercalate parts) = ⟨anchor, parts⟩ := by
    rw [ofText, String.toList_append, anchor_of_append anchor (written_plain normal),
      parts_of_anchored, parts_of_written normal]
  cases anchor with
  | here =>
      cases parts with
      | nil => rfl
      | cons part rest => exact read
  | slash => exact read
  | doubleSlash => exact read

/-- Paths in normal form are the same if they are written the same. -/
theorem Normal.eq_of_text {p q : Path} (normal : p.Normal) (normal' : q.Normal)
    (same : p.text = q.text) : p = q := by
  rw [← of_text_text normal, same, of_text_text normal']

/-! ### Below a directory -/

theorem mem_shorten_iff (initial parts : List String) :
    initial ∈ shorten parts ↔ initial <+: parts := by
  induction parts generalizing initial with
  | nil => rw [shorten, List.mem_singleton, List.prefix_nil]
  | cons part rest ih =>
      rw [shorten, List.mem_append, List.mem_map, List.mem_singleton, List.prefix_cons_iff, or_comm]
      refine or_congr_right ⟨?_, ?_⟩
      · rintro ⟨later, among, rfl⟩
        exact ⟨later, rfl, (ih later).mp among⟩
      · rintro ⟨later, rfl, shorter⟩
        exact ⟨later, (ih later).mpr shorter, rfl⟩

/-- A path is found upward from another exactly if the other goes on from it. -/
theorem mem_upward_iff (p q : Path) : q ∈ p.upward ↔ q.anchor = p.anchor ∧ q.parts <+: p.parts := by
  obtain ⟨anchor, parts⟩ := q
  simp only [upward, List.mem_map, mem_shorten_iff, Path.mk.injEq]
  constructor
  · rintro ⟨initial, shorter, same, rfl⟩
    exact ⟨same.symm, shorter⟩
  · rintro ⟨same, shorter⟩
    exact ⟨parts, shorter, same.symm, rfl⟩

/-! ### Spellings -/

/-- The ways to spell a relative path: with segments that are a single dot, in front or behind a
slash, and with slashes repeated. -/
inductive Spelling (name : List Char) : List Char → Prop where
  | plain : Spelling name name
  | dotInFront {s : List Char} (spelling : Spelling name s) : Spelling name ('.' :: '/' :: s)
  | dotBehind {a b : List Char} (spelling : Spelling name (a ++ '/' :: b)) :
      Spelling name (a ++ '/' :: '.' :: '/' :: b)
  | slashAgain {a b : List Char} (spelling : Spelling name (a ++ '/' :: b)) :
      Spelling name (a ++ '/' :: '/' :: b)

/-- A spelling of a relative path is relative and has the same parts. -/
theorem Spelling.same_parts {name s : List Char} (spelling : Spelling name s)
    (relative : anchorOf name = .here) : anchorOf s = .here ∧ partsOf s = partsOf name := by
  induction spelling with
  | plain => exact ⟨relative, rfl⟩
  | @dotInFront s spelling ih => exact ⟨rfl, (parts_of_dot_slash s).trans ih.2⟩
  | @dotBehind a b spelling ih =>
      refine ⟨anchor_of_edit ih.1 _, ?_⟩
      rw [parts_of_append, parts_of_dot_slash, ← parts_of_append, ih.2]
  | @slashAgain a b spelling ih =>
      refine ⟨anchor_of_edit ih.1 _, ?_⟩
      rw [parts_of_append, parts_of_slash, ← parts_of_append, ih.2]

theorem is_absolute_eq_false_iff (p : Path) : p.isAbsolute = false ↔ p.anchor = .here := by
  rw [isAbsolute, bne_eq_false_iff_eq]

/-- All spellings of a relative path are read as the same path. -/
theorem Spelling.of_text {name s : String} (spelling : Spelling name.toList s.toList)
    (relative : (ofText name).isAbsolute = false) : ofText s = ofText name := by
  rw [is_absolute_eq_false_iff] at relative
  obtain ⟨here, same⟩ := spelling.same_parts relative
  rw [ofText, ofText, here, same, ← relative]
  rfl

end PlaybookLint.Path
