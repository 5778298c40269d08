import Mathlib.Data.List.Basic
import PlaybookLint.Target

/-!
Paths written on one line. A path is written without a line feed exactly if none of its parts has
one; joining such paths and reading them from texts gives no others.
-/

namespace PlaybookLint

namespace Path

/-- A character other than the separator stands in one of the pieces between separators. -/
theorem mem_intercalate_iff {sep : List Char} {c : Char} (foreign : c ∉ sep)
    (pieces : List (List Char)) : c ∈ sep.intercalate pieces ↔ ∃ piece ∈ pieces, c ∈ piece := by
  induction pieces with
  | nil => simp
  | cons piece rest ih =>
      cases rest with
      | nil => simp
      | cons next rest =>
          rw [List.intercalate_cons_cons, List.mem_append, List.mem_append, ih]
          simp only [foreign, or_false, List.exists_mem_cons_iff]

/-- No part of the path has a line feed. -/
def Single (p : Path) : Prop := ∀ part ∈ p.parts, '\n' ∉ part.toList

theorem feed_not_in_anchor (a : Anchor) : '\n' ∉ a.text.toList := by
  cases a <;> decide

theorem text_single_iff (p : Path) : '\n' ∉ p.text.toList ↔ p.Single := by
  obtain ⟨anchor, parts⟩ := p
  have written (anchor : Anchor) :
      '\n' ∉ (anchor.text ++ "/".intercalate parts).toList ↔ Single ⟨anchor, parts⟩ := by
    rw [String.toList_append, List.mem_append, not_or, String.toList_intercalate,
      mem_intercalate_iff (by decide)]
    simp only [feed_not_in_anchor, not_false_eq_true, true_and, Single, List.mem_map,
      exists_exists_and_eq_and, not_exists, not_and]
  cases anchor with
  | here =>
      cases parts with
      | nil => exact ⟨fun _ part member => absurd member List.not_mem_nil, fun _ => by decide⟩
      | cons part rest => exact written .here
  | slash => exact written .slash
  | doubleSlash => exact written .doubleSlash

/-- Joining brings in no parts but those of the two paths. -/
theorem join_satisfies {P : String → Prop} {p q : Path} (base : ∀ part ∈ p.parts, P part)
    (other : ∀ part ∈ q.parts, P part) : ∀ part ∈ (p.join q).parts, P part := by
  rw [Path.join]
  split
  · exact other
  · intro part member
    rcases List.mem_append.mp member with first | second
    · exact base part first
    · exact other part second

theorem Single.join {p q : Path} (base : p.Single) (other : q.Single) : (p.join q).Single :=
  join_satisfies base other

/-- The pieces between slashes hold nothing that the text does not. -/
theorem mem_of_mem_piece {s piece : List Char} (among : piece ∈ splitSlashes s) {c : Char}
    (member : c ∈ piece) : c ∈ s := by
  fun_induction splitSlashes s generalizing piece with
  | case1 =>
      rw [List.mem_singleton.mp among] at member
      exact member
  | case2 rest ih =>
      rcases List.mem_cons.mp among with rfl | later
      · exact absurd member List.not_mem_nil
      · exact List.mem_cons_of_mem _ (ih later member)
  | case3 d rest slash pieces ih =>
      rw [List.mem_singleton.mp among] at member
      exact List.mem_singleton.mp member ▸ List.mem_cons_self
  | case4 d rest slash first pieces split ih =>
      rcases List.mem_cons.mp among with rfl | later
      · rcases List.mem_cons.mp member with rfl | inside
        · exact List.mem_cons_self
        · exact List.mem_cons_of_mem _ (ih (split ▸ List.mem_cons_self) inside)
      · exact List.mem_cons_of_mem _ (ih (split ▸ List.mem_cons_of_mem _ later) member)

theorem single_of_text {s : String} (single : '\n' ∉ s.toList) : (ofText s).Single := by
  intro part member feed
  obtain ⟨piece, among, same⟩ := List.mem_map.mp member
  rw [← same, String.toList_ofList] at feed
  exact single (mem_of_mem_piece (List.mem_of_mem_filter among) feed)

end Path

/-- A reported path without line feeds is located without line feeds. -/
theorem Target.locate_single {t : Target} {reported : String}
    (directory : '\n' ∉ t.directory.text.toList) (single : '\n' ∉ reported.toList) :
    '\n' ∉ (t.locate reported).toList := by
  rw [Target.locate, Path.text_single_iff]
  exact ((Path.text_single_iff _).mp directory).join (Path.single_of_text single)

end PlaybookLint
