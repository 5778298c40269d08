import Mathlib
import PlaybookLint.Console
import PlaybookLint.Proofs.LineEnds
import PlaybookLint.Proofs.PathText

/-!
How a text stands on a console. Controls that move the cursor are left out, tabs become blanks, and
everything else stands as it is, with one line feed at the end. This is all that is relied on of what
writes to a console; how far a tab leads is left open, up to the distance of two stops.
-/

namespace PlaybookLint.Console

/-- A text and how it stands on a console, without colour. -/
inductive Stands : List Char → List Char → Prop
  | done : Stands [] ['\n']
  | left {c : Char} {rest shown : List Char} (moves : isDropped c = true)
      (later : Stands rest shown) : Stands (c :: rest) shown
  | tab {blanks : Nat} {rest shown : List Char} (some : 0 < blanks) (near : blanks ≤ tabStop)
      (later : Stands rest shown) : Stands ('\t' :: rest) (List.replicate blanks ' ' ++ shown)
  | same {c : Char} {rest shown : List Char} (stays : isDropped c = false) (solid : c ≠ '\t')
      (later : Stands rest shown) : Stands (c :: rest) (c :: shown)

/-- A text without tabs stands as it is, but for the controls that move the cursor. -/
theorem Stands.eq_of_no_tab {s shown : List Char} (stands : Stands s shown) (solid : '\t' ∉ s) :
    shown = s.filter (!isDropped ·) ++ ['\n'] := by
  induction stands with
  | done => rfl
  | left moves later ih =>
      rw [List.filter_cons_of_neg (by simp [moves])]
      exact ih fun there => solid (List.mem_cons_of_mem _ there)
  | tab some near later ih => exact absurd List.mem_cons_self solid
  | same stays solid' later ih =>
      rw [List.filter_cons_of_pos (by simp [stays]), List.cons_append,
        ih fun there => solid (List.mem_cons_of_mem _ there)]

/-- Every text ends with a line feed. -/
theorem Stands.ends {s shown : List Char} (stands : Stands s shown) :
    ∃ front, shown = front ++ ['\n'] := by
  induction stands with
  | done => exact ⟨[], rfl⟩
  | left moves later ih => exact ih
  | tab some near later ih =>
      obtain ⟨front, rfl⟩ := ih
      exact ⟨_, (List.append_assoc ..).symm⟩
  | same stays solid later ih =>
      obtain ⟨front, rfl⟩ := ih
      exact ⟨_ :: front, rfl⟩

example : plain "a\tb\rc" = "a       bc\n" := by rfl

end PlaybookLint.Console
