import Mathlib.Data.List.Forall2
import PlaybookLint.Proofs.Outcome
import PlaybookLint.Validation.Coerce

/-!
What is taken for a text, a flag, a number or a list of texts. Each kind of value has a table of the
ways to write it. A check accepts a value exactly if some row of the table gives it a meaning, and
hands that meaning on. `Lenient` is all that is assumed of the package that checks values, and the
readings used here are lenient in that sense.
-/

namespace PlaybookLint

/-! ### Checks of several values -/

namespace Checked

variable {α β : Type}

theorem both_ok_iff {x : Checked α} {y : Checked β} {pair : α × β} :
    x.both y = .ok pair ↔ x = .ok pair.1 ∧ y = .ok pair.2 := by
  cases x with
  | error found => cases y <;> exact iff_of_false nofun fun ⟨refused, _⟩ => nomatch refused
  | ok a =>
      cases y with
      | error found => exact iff_of_false nofun fun ⟨_, refused⟩ => nomatch refused
      | ok b => simp only [both, Except.ok.injEq, Prod.ext_iff]

theorem under_ok_iff {key : String} {x : Checked α} {a : α} : x.under key = .ok a ↔ x = .ok a := by
  cases x with
  | error found => exact iff_of_false nofun nofun
  | ok b => rfl

/-- A list is accepted exactly if every item is, wherever the numbering of the items begins. -/
theorem all_places_ok_iff {check : Datum → Checked α} {items : List Datum} {values : List α}
    (start : Nat) : Checked.all (Datum.placesFrom start (items.map check)) = .ok values ↔
      List.Forall₂ (fun d a => check d = .ok a) items values := by
  induction items generalizing start values with
  | nil => simp only [List.map_nil, Datum.placesFrom, all, List.forall₂_nil_left_iff,
      Except.ok.injEq, eq_comm]
  | cons d rest ih =>
      simp only [List.map_cons, Datum.placesFrom, all]
      constructor
      · intro passed
        obtain ⟨⟨a, others⟩, joined, rfl⟩ := Outcome.map_ok passed
        obtain ⟨first, later⟩ := both_ok_iff.mp joined
        exact .cons (under_ok_iff.mp first) ((ih (start + 1)).mp later)
      · intro passed
        cases passed with
        | @cons _ a _ others first later =>
            have joined : ((check d).under (toString start)).both
                (all (Datum.placesFrom (start + 1) (rest.map check))) = .ok (a, others) :=
              both_ok_iff.mpr ⟨under_ok_iff.mpr first, (ih (start + 1)).mpr later⟩
            rw [joined]
            rfl

end Checked

namespace Datum

/-! ### The ways to write a value -/

/-- A text is written as one, or by its octets. -/
inductive Spells : Datum → String → Prop
  | text (s : String) : Spells (.text s) s
  | octets {bytes : List UInt8} {s : String} (decodes : Text.Utf8.decode bytes = .ok s) :
      Spells (.octets bytes) s

/-- The words for a flag. -/
def flagWords (b : Bool) : List String := if b then trueWords else falseWords

/-- A flag is written as one, as the number zero or one, or as a word in letters of either case. -/
inductive Affirms : Datum → Bool → Prop
  | flag (b : Bool) : Affirms (.flag b) b
  | integer (b : Bool) : Affirms (.integer b.toInt) b
  | decimal {x : Binary64} {b : Bool} (whole : x.toInt? = some b.toInt) : Affirms (.decimal x) b
  | word {d : Datum} {s : String} {b : Bool} (spells : Spells d s)
      (known : String.ofList (s.toList.map Char.toLower) ∈ flagWords b) : Affirms d b

/-- A number is written as one, as an integer that is not too large, as a flag or as a numeral. -/
inductive Measures : Datum → Binary64 → Prop
  | decimal (x : Binary64) : Measures (.decimal x) x
  | flag (b : Bool) : Measures (.flag b) (.ofRatio false (if b then 1 else 0) 1)
  | integer {i : Int} {x : Binary64} (fits : Binary64.ofInt? i = some x) : Measures (.integer i) x
  | numeral {d : Datum} {s : String} {x : Binary64} (spells : Spells d s)
      (read : readFloat? s = some x) : Measures d x

/-- An integer is written as one, as a flag, as a number of a machine word without a fraction, or as
a numeral. -/
inductive Counts : Datum → Int → Prop
  | integer (i : Int) : Counts (.integer i) i
  | flag (b : Bool) : Counts (.flag b) b.toInt
  | decimal {x : Binary64} {i : Int} (whole : x.toInt? = some i)
      (fits : i.natAbs < Nat.pow 2 63) : Counts (.decimal x) i
  | numeral {d : Datum} {s : String} {i : Int} (spells : Spells d s)
      (read : readInteger s = .ok i) : Counts d i

/-- Items in a row are written as a list, as a tuple or as a set. -/
inductive Holds : Datum → List Datum → Prop
  | list (items : List Datum) : Holds (.list items) items
  | tuple (items : List Datum) : Holds (.tuple items) items
  | set (frozen : Bool) (items : List Datum) : Holds (.set frozen items) items

/-- What is assumed of readings of texts, flags, numbers, integers and lists of texts. -/
structure Lenient (text : Datum → Checked String) (flag : Datum → Checked Bool)
    (number : Datum → Checked Binary64) (integer : Datum → Checked Int)
    (texts : Datum → Checked (List String)) : Prop where
  text_iff : ∀ d s, text d = .ok s ↔ Spells d s
  flag_iff : ∀ d b, flag d = .ok b ↔ Affirms d b
  number_iff : ∀ d x, number d = .ok x ↔ Measures d x
  integer_iff : ∀ d i, integer d = .ok i ↔ Counts d i
  texts_iff : ∀ d values, texts d = .ok values ↔
    ∃ items, Holds d items ∧ List.Forall₂ Spells items values

/-! ### The readings are lenient -/

theorem decoded_eq_text_iff {d : Datum} {s : String} : d.decoded = .text s ↔ Spells d s := by
  constructor
  · intro seen
    cases d with
    | octets bytes =>
        rw [decoded] at seen
        split at seen
        · rename_i decodes
          cases seen
          exact .octets decodes
        · cases seen
    | text t =>
        cases seen
        exact .text s
    | _ => cases seen
  · intro spells
    cases spells with
    | text => rfl
    | octets decodes => rw [decoded, decodes]

/-- Octets are read as a text or stay what they are. All other values do. -/
theorem eq_of_decoded {d seen : Datum} (read : d.decoded = seen) (wordless : ∀ s, seen ≠ .text s) :
    d = seen := by
  cases d with
  | octets bytes =>
      rw [decoded] at read
      split at read
      · exact absurd read.symm (wordless _)
      · exact read
  | _ => exact read

theorem as_text_ok_iff {d : Datum} {s : String} : d.asText = .ok s ↔ Spells d s := by
  rw [← decoded_eq_text_iff, asText]
  cases d.decoded with
  | text t => simp only [Except.ok.injEq, text.injEq]
  | _ => exact iff_of_false nofun nofun

/-- No word stands for both. -/
theorem false_words_false : ∀ word ∈ falseWords, trueWords.contains word = false := by decide +kernel

theorem as_flag_ok_iff {d : Datum} {b : Bool} : d.asFlag = .ok b ↔ Affirms d b := by
  constructor
  · intro passed
    rw [asFlag] at passed
    generalize read : d.decoded = seen at passed
    cases seen with
    | flag b' =>
        cases eq_of_decoded read nofun
        cases passed
        exact .flag b
    | integer i =>
        cases eq_of_decoded read nofun
        simp only at passed
        split at passed
        · rename_i zero
          cases passed
          rw [eq_of_beq zero]
          exact .integer false
        · split at passed
          · rename_i one
            cases passed
            rw [eq_of_beq one]
            exact .integer true
          · cases passed
    | decimal x =>
        cases eq_of_decoded read nofun
        simp only at passed
        split at passed
        · rename_i zero
          cases passed
          exact .decimal zero
        · rename_i one
          cases passed
          exact .decimal one
        · cases passed
        · cases passed
    | text s =>
        refine .word (decoded_eq_text_iff.mp read) ?_
        simp only at passed
        split at passed
        · rename_i known
          cases passed
          exact List.contains_iff_mem.mp known
        · split at passed
          · rename_i known
            cases passed
            exact List.contains_iff_mem.mp known
          · cases passed
    | _ => cases passed
  · intro affirms
    cases affirms with
    | flag => rfl
    | integer => cases b <;> rfl
    | decimal whole =>
        simp only [asFlag, decoded, whole]
        cases b <;> rfl
    | word spells known =>
        rw [asFlag, decoded_eq_text_iff.mpr spells]
        cases b with
        | true => exact if_pos (List.contains_iff_mem.mpr known)
        | false =>
            have other := Bool.eq_false_iff.mp (false_words_false _ known)
            exact (if_neg other).trans (if_pos (List.contains_iff_mem.mpr known))

theorem as_number_ok_iff {d : Datum} {x : Binary64} : d.asNumber = .ok x ↔ Measures d x := by
  constructor
  · intro passed
    rw [asNumber] at passed
    generalize read : d.decoded = seen at passed
    cases seen with
    | decimal y =>
        cases eq_of_decoded read nofun
        cases passed
        exact .decimal x
    | flag b =>
        cases eq_of_decoded read nofun
        cases passed
        exact .flag b
    | integer i =>
        cases eq_of_decoded read nofun
        simp only at passed
        split at passed
        · rename_i fits
          cases passed
          exact .integer fits
        · cases passed
    | text s =>
        simp only at passed
        split at passed
        · rename_i numeral
          cases passed
          exact .numeral (decoded_eq_text_iff.mp read) numeral
        · cases passed
    | _ => cases passed
  · intro measures
    cases measures with
    | decimal | flag => rfl
    | integer fits =>
        simp only [asNumber, decoded, fits]
    | numeral spells read =>
        rw [asNumber, decoded_eq_text_iff.mpr spells]
        simp only [read]

theorem as_integer_ok_iff {d : Datum} {i : Int} : d.asInteger = .ok i ↔ Counts d i := by
  constructor
  · intro passed
    rw [asInteger] at passed
    generalize read : d.decoded = seen at passed
    cases seen with
    | integer j =>
        cases eq_of_decoded read nofun
        cases passed
        exact .integer i
    | flag b =>
        cases eq_of_decoded read nofun
        cases passed
        cases b
        · exact .flag false
        · exact .flag true
    | decimal x =>
        cases eq_of_decoded read nofun
        cases x with
        | finite negative mantissa exponent =>
            simp only at passed
            split at passed
            · cases passed
            · rename_i whole
              split at passed
              · rename_i fits
                cases passed
                exact .decimal whole fits
              · cases passed
        | _ => cases passed
    | text s => exact .numeral (decoded_eq_text_iff.mp read) passed
    | _ => cases passed
  · intro counts
    cases counts with
    | integer => rfl
    | flag b => cases b <;> rfl
    | @decimal x _ whole fits =>
        cases x with
        | finite negative mantissa exponent =>
            simp only [asInteger, decoded, whole, fits, if_true]
        | _ => cases whole
    | numeral spells read =>
        rw [asInteger, decoded_eq_text_iff.mpr spells]
        exact read

theorem as_texts_ok_iff {d : Datum} {values : List String} :
    d.asTexts = .ok values ↔ ∃ items, Holds d items ∧ List.Forall₂ Spells items values := by
  have each {items : List Datum} : Checked.all (placesFrom 0 (items.map asText)) = .ok values ↔
      List.Forall₂ Spells items values := by
    rw [Checked.all_places_ok_iff 0]
    simp only [as_text_ok_iff]
  constructor
  · intro passed
    cases d with
    | list items => exact ⟨items, .list items, each.mp passed⟩
    | tuple items => exact ⟨items, .tuple items, each.mp passed⟩
    | set frozen items => exact ⟨items, .set frozen items, each.mp passed⟩
    | _ => cases passed
  · rintro ⟨items, holds, spells⟩
    cases holds <;> exact each.mpr spells

theorem lenient : Lenient asText asFlag asNumber asInteger asTexts where
  text_iff _ _ := as_text_ok_iff
  flag_iff _ _ := as_flag_ok_iff
  number_iff _ _ := as_number_ok_iff
  integer_iff _ _ := as_integer_ok_iff
  texts_iff _ _ := as_texts_ok_iff

end Datum

end PlaybookLint
