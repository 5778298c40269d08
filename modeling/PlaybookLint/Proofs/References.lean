import Mathlib.Data.List.Basic
import PlaybookLint.Proofs.Text
import PlaybookLint.Settings.Environment

/-!
References to the environment. A text is cut, from left to right and in one way only, into references
and characters that stand for themselves; where it is cut does not depend on the environment. Expanding
a text shows each of its pieces on its own, so what is put in is not looked at again and variables that
are not referred to make no difference. In a value, the texts reached through lists alone are expanded,
and nothing else.
-/

namespace PlaybookLint.Environment

/-! ### Pieces of a text -/

/-- A character that stands for itself, or a reference by a bare name or by a name in braces. -/
inductive Piece where
  | plain (c : Char)
  | bare (name : List Char)
  | braced (name : List Char)

/-- A name stands behind a dollar sign: a word character, or something in closed braces. -/
def Named (rest : List Char) : Prop :=
  (∃ c after, rest = c :: after ∧ Text.isWord c = true) ∨
    ∃ name after, name ≠ [] ∧ '\x7d' ∉ name ∧ rest = '\x7b' :: (name ++ '\x7d' :: after)

/-- The text does not begin with a word character. -/
def NoWord (rest : List Char) : Prop := ∀ c after, rest = c :: after → Text.isWord c = false

namespace Piece

/-- The piece as it stands in the text. -/
def written : Piece → List Char
  | .plain c => [c]
  | .bare name => '$' :: name
  | .braced name => '$' :: '\x7b' :: (name ++ ['\x7d'])

/-- The variable that the piece refers to. -/
def name? : Piece → Option String
  | .plain _ => none
  | .bare name | .braced name => some (String.ofList name)

/-- What the piece comes to: the value of the variable if that is set, and otherwise what is
written. -/
def shown (lookup : String → Option String) (piece : Piece) : List Char :=
  match piece.name?.bind lookup with
  | some value => value.toList
  | none => piece.written

/-- The piece may stand before a text. A dollar sign stands for itself only where no name follows, and
a bare name goes on as long as word characters follow. -/
def Fits : Piece → List Char → Prop
  | .plain c, rest => c = '$' → ¬Named rest
  | .bare name, rest => name ≠ [] ∧ (∀ c ∈ name, Text.isWord c = true) ∧ NoWord rest
  | .braced name, _ => name ≠ [] ∧ '\x7d' ∉ name

end Piece

/-- The variables that pieces refer to. -/
def names (pieces : List Piece) : List String := pieces.filterMap Piece.name?

/-- The cut of a text into pieces, each of which may stand before the text that is left. -/
inductive Cut : List Char → List Piece → Prop
  | done : Cut [] []
  | piece {p : Piece} {rest : List Char} {pieces : List Piece} (fits : p.Fits rest)
      (after : Cut rest pieces) : Cut (p.written ++ rest) (p :: pieces)

theorem Cut.written {s : List Char} {pieces : List Piece} (cut : Cut s pieces) :
    pieces.flatMap Piece.written = s := by
  induction cut with
  | done => rfl
  | piece _ _ ih => rw [List.flatMap_cons, ih]

/-! ### What the reader of references finds -/

theorem brace_not_word : Text.isWord '\x7b' = false := by decide

theorem not_close_iff {name : List Char} :
    (∀ c ∈ name, (c != '\x7d') = true) ↔ '\x7d' ∉ name := by
  simp only [bne_iff_ne, ne_eq]
  exact ⟨fun others among => others _ among rfl, fun absent c among same => absent (same ▸ among)⟩

theorem no_word_behind_run (s : List Char) : NoWord (s.dropWhile Text.isWord) := by
  intro c after behind
  have stops := List.head?_dropWhile_not Text.isWord s
  rw [behind] at stops
  simpa using stops

theorem take_word_run {name rest : List Char} (word : ∀ c ∈ name, Text.isWord c = true)
    (ends : NoWord rest) : (name ++ rest).takeWhile Text.isWord = name := by
  rw [List.takeWhile_append_of_pos word]
  cases rest with
  | nil => exact List.append_nil name
  | cons c after =>
      rw [List.takeWhile_cons, ends c after rfl, if_neg Bool.false_ne_true, List.append_nil]

theorem reference_bare {name rest : List Char} (fits : (Piece.bare name).Fits rest) :
    reference? (name ++ rest) = some (name, name.length) := by
  obtain ⟨filled, word, ends⟩ := fits
  have full : name.isEmpty = false := List.isEmpty_eq_false_iff.mpr filled
  simp only [reference?, bareName?, take_word_run word ends, full, Bool.false_eq_true, if_false]
  rfl

theorem reference_braced {name : List Char} (rest : List Char)
    (fits : (Piece.braced name).Fits rest) :
    reference? ('\x7b' :: (name ++ '\x7d' :: rest)) = some (name, name.length + 2) := by
  obtain ⟨filled, closed⟩ := fits
  have full : name.isEmpty = false := List.isEmpty_eq_false_iff.mpr filled
  have run : (name ++ '\x7d' :: rest).takeWhile (· != '\x7d') = name :=
    Text.take_while_run (not_close_iff.mpr closed) rfl rest
  have noBare : bareName? ('\x7b' :: (name ++ '\x7d' :: rest)) = none := by
    simp only [bareName?, List.takeWhile_cons, brace_not_word, Bool.false_eq_true, if_false,
      List.isEmpty_nil, if_true]
  simp only [reference?, noBare, bracedName?, run, full, List.drop_left, List.isEmpty_cons,
    Bool.or_self, Bool.false_eq_true, if_false]
  rfl

/-- Where a name follows, the reader finds one. -/
theorem reference_of_named {rest : List Char} (named : Named rest) : reference? rest ≠ none := by
  rcases named with ⟨c, after, rfl, word⟩ | ⟨name, after, filled, closed, rfl⟩
  · have fits : (Piece.bare ((c :: after).takeWhile Text.isWord)).Fits
        ((c :: after).dropWhile Text.isWord) := by
      refine ⟨?_, Text.all_of_take_while _, no_word_behind_run _⟩
      rw [List.takeWhile_cons, if_pos word]
      exact List.cons_ne_nil _ _
    have found := reference_bare fits
    rw [List.takeWhile_append_dropWhile] at found
    rw [found]
    exact Option.some_ne_none _
  · rw [reference_braced after ⟨filled, closed⟩]
    exact Option.some_ne_none _

/-- A name in braces that the reader finds is closed. -/
theorem closed_of_braced_name {rest name : List Char} {taken : Nat}
    (found : bracedName? rest = some (name, taken)) :
    ∃ after, rest = '\x7b' :: (name ++ '\x7d' :: after) ∧ (Piece.braced name).Fits after ∧
      taken = name.length + 2 := by
  revert found
  fun_cases bracedName? rest with
  | case1 => nofun
  | case2 inner run closes =>
      intro found
      obtain ⟨same, length⟩ := Prod.mk.inj (Option.some.inj found)
      rw [Bool.or_eq_true, not_or, List.isEmpty_iff, List.isEmpty_iff] at closes
      obtain ⟨filled, closes⟩ := closes
      have whole : run ++ inner.dropWhile (· != '\x7d') = inner := List.takeWhile_append_dropWhile
      have stops := List.head?_dropWhile_not (· != '\x7d') inner
      cases tail : inner.dropWhile (· != '\x7d') with
      | nil =>
          rw [tail, List.append_nil] at whole
          exact absurd (whole ▸ List.drop_length) closes
      | cons c after =>
          rw [tail] at stops whole
          have close : c = '\x7d' := by simpa using stops
          refine ⟨after, ?_, ⟨same ▸ filled, same ▸ ?_⟩, same ▸ length.symm⟩
          · rw [← same, ← close, whole]
          · exact not_close_iff.mp (Text.all_of_take_while inner)
  | case3 => nofun

/-- What the reader finds is a piece that refers to the name. -/
theorem piece_of_reference {rest name : List Char} {taken : Nat}
    (found : reference? rest = some (name, taken)) :
    ∃ (p : Piece) (after : List Char), '$' :: rest = p.written ++ after ∧ p.Fits after ∧
      p.name? = some (String.ofList name) ∧ p.written.length = taken + 1 := by
  rw [reference?] at found
  cases bare : bareName? rest with
  | none =>
      rw [bare] at found
      obtain ⟨after, split, fits, length⟩ := closed_of_braced_name found
      refine ⟨.braced name, after, ?_, fits, rfl, ?_⟩
      · simp only [split, Piece.written, List.cons_append, List.append_assoc, List.nil_append]
      · simp only [Piece.written, List.length_cons, List.length_append, List.length_nil, length]
  | some pair =>
      rw [bare] at found
      cases found
      rw [bareName?] at bare
      split at bare
      · cases bare
      · rename_i filled
        cases bare
        refine ⟨.bare _, rest.dropWhile Text.isWord, ?_, ⟨?_, Text.all_of_take_while rest,
          no_word_behind_run rest⟩, rfl, rfl⟩
        · rw [Piece.written, List.cons_append, List.takeWhile_append_dropWhile]
        · exact fun empty => filled (List.isEmpty_iff.mpr empty)

/-! ### One cut, whatever the environment -/

theorem exists_cut (s : List Char) : ∃ pieces, Cut s pieces := by
  induction length : s.length using Nat.strongRecOn generalizing s with
  | ind n ih =>
      cases s with
      | nil => exact ⟨[], .done⟩
      | cons c rest =>
          -- The first piece is a reference if the reader finds one, and else the first character.
          have first : ∃ (p : Piece) (after : List Char),
              c :: rest = p.written ++ after ∧ p.Fits after ∧ p.written ≠ [] := by
            by_cases named : c = '$' ∧ reference? rest ≠ none
            · obtain ⟨rfl, some⟩ := named
              obtain ⟨⟨name, taken⟩, found⟩ := Option.ne_none_iff_exists'.mp some
              obtain ⟨p, after, split, fits, _, length⟩ := piece_of_reference found
              exact ⟨p, after, split, fits, List.length_pos_iff.mp (by omega)⟩
            · exact ⟨.plain c, rest, rfl,
                fun dollar follows => named ⟨dollar, reference_of_named follows⟩,
                List.cons_ne_nil c []⟩
          obtain ⟨p, after, split, fits, filled⟩ := first
          have shorter : after.length < n := by
            have total := congrArg List.length split
            rw [length, List.length_append] at total
            have positive := List.length_pos_iff.mpr filled
            omega
          obtain ⟨pieces, cut⟩ := ih after.length shorter after rfl
          exact ⟨p :: pieces, split ▸ .piece fits cut⟩

/-- A reference that may stand before a text is what the reader finds. -/
theorem read_back {p : Piece} {after : List Char} (fits : p.Fits after) (refers : p.name? ≠ none) :
    ∃ name tail, p.written = '$' :: tail ∧ p.name? = some (String.ofList name) ∧
      reference? (tail ++ after) = some (name, tail.length) := by
  cases p with
  | plain c => exact absurd rfl refers
  | bare name => exact ⟨name, name, rfl, rfl, reference_bare fits⟩
  | braced name =>
      refine ⟨name, '\x7b' :: (name ++ ['\x7d']), rfl, rfl, ?_⟩
      have found := reference_braced after fits
      simpa only [List.cons_append, List.append_assoc, List.nil_append, List.length_cons,
        List.length_append, List.length_nil] using found

/-- A dollar sign that stands for itself is no reference. -/
theorem not_reference_of_plain {c : Char} {rest : List Char} (fits : (Piece.plain c).Fits rest)
    (dollar : c = '$') : reference? rest = none := by
  cases found : reference? rest with
  | none => rfl
  | some pair =>
      obtain ⟨p, after, split, fits', refers, _⟩ := piece_of_reference found
      refine absurd ?_ (fits dollar)
      cases p with
      | plain c => cases refers
      | bare name =>
          obtain ⟨filled, word, _⟩ := fits'
          rw [(List.cons.inj split).2]
          cases name with
          | nil => exact absurd rfl filled
          | cons c name => exact .inl ⟨c, name ++ after, rfl, word c List.mem_cons_self⟩
      | braced name =>
          refine .inr ⟨name, after, fits'.1, fits'.2, ?_⟩
          rw [(List.cons.inj split).2]
          exact congrArg _ (List.append_assoc _ _ _)

theorem plain_apart {c : Char} {q : Piece} {rest rest' : List Char}
    (fits : (Piece.plain c).Fits rest) (fits' : q.Fits rest') (refers : q.name? ≠ none) :
    c :: rest ≠ q.written ++ rest' := by
  intro same
  obtain ⟨name, tail, written, _, found⟩ := read_back fits' refers
  rw [written, List.cons_append, List.cons.injEq] at same
  obtain ⟨dollar, same⟩ := same
  rw [← same, not_reference_of_plain fits dollar] at found
  cases found

/-- The form of a reference is told by what is written and by its name. -/
theorem eq_of_written {p q : Piece} (refers : p.name? ≠ none) (name : p.name? = q.name?)
    (written : p.written = q.written) : p = q := by
  cases p with
  | plain c => exact absurd rfl refers
  | bare n =>
      cases q with
      | plain c => cases name
      | bare m => rw [(List.cons.inj written).2]
      | braced m =>
          have same : n = m := String.ofList_injective (Option.some.inj name)
          have sizes := congrArg List.length written
          simp only [Piece.written, same, List.length_cons, List.length_append, List.length_nil]
            at sizes
          omega
  | braced n =>
      cases q with
      | plain c => cases name
      | bare m =>
          have same : n = m := String.ofList_injective (Option.some.inj name)
          have sizes := congrArg List.length written
          simp only [Piece.written, same, List.length_cons, List.length_append, List.length_nil]
            at sizes
          omega
      | braced m => rw [String.ofList_injective (Option.some.inj name)]

/-- Only one piece may come first, and it leaves the same text. -/
theorem first_piece_unique {p q : Piece} {rest rest' : List Char} (fits : p.Fits rest)
    (fits' : q.Fits rest') (same : p.written ++ rest = q.written ++ rest') :
    p = q ∧ rest = rest' := by
  by_cases first : p.name? = none
  · cases p with
    | plain c =>
        by_cases second : q.name? = none
        · cases q with
          | plain d =>
              obtain ⟨head, tail⟩ := List.cons.inj same
              exact ⟨congrArg Piece.plain head, tail⟩
          | _ => cases second
        · exact absurd same (plain_apart fits fits' second)
    | _ => cases first
  · by_cases second : q.name? = none
    · cases q with
      | plain d => exact absurd same.symm (plain_apart fits' fits first)
      | _ => cases second
    · obtain ⟨name, tail, written, refers, found⟩ := read_back fits first
      obtain ⟨name', tail', written', refers', found'⟩ := read_back fits' second
      rw [written, written', List.cons_append, List.cons_append, List.cons.injEq] at same
      rw [same.2, found', Option.some.injEq, Prod.mk.injEq] at found
      obtain ⟨tails, rests⟩ := List.append_inj same.2 found.2.symm
      refine ⟨eq_of_written first ?_ ?_, rests⟩
      · rw [refers, refers', found.1]
      · rw [written, written', tails]

theorem cut_unique {s : List Char} {pieces pieces' : List Piece} (cut : Cut s pieces)
    (cut' : Cut s pieces') : pieces = pieces' := by
  induction cut generalizing pieces' with
  | done =>
      generalize whole : ([] : List Char) = s at cut'
      cases cut' with
      | done => rfl
      | @piece q rest pieces fits after => cases q <;> cases whole
  | @piece p rest pieces fits after ih =>
      generalize whole : p.written ++ rest = s at cut'
      cases cut' with
      | done => cases p <;> cases whole
      | @piece q rest' pieces' fits' after' =>
          obtain ⟨same, left⟩ := first_piece_unique fits fits' whole
          rw [same, ih (left ▸ after')]

/-! ### Expansion, piece by piece -/

section Expansion

variable {lookup lookup' : String → Option String}

/-- The characters of a reference are passed over once it is done with. -/
theorem expand_behind (tail after : List Char) :
    expandFrom lookup tail.length (tail ++ after) = expandFrom lookup 0 after := by
  induction tail with
  | nil => rfl
  | cons c tail ih => exact ih

theorem expand_reference {name tail after : List Char}
    (found : reference? (tail ++ after) = some (name, tail.length)) :
    expandFrom lookup 0 ('$' :: (tail ++ after)) =
      (match lookup (String.ofList name) with
        | some value => value.toList
        | none => '$' :: tail) ++ expandFrom lookup 0 after := by
  rw [expandFrom, beq_self_eq_true, if_pos rfl, found]
  dsimp only
  rw [expand_behind]
  cases lookup (String.ofList name) with
  | none => rw [List.take_left]
  | some value => rfl

/-- Expanding shows the first piece and goes on with the text that is left. -/
theorem expand_piece {p : Piece} {rest : List Char} (fits : p.Fits rest) :
    expandFrom lookup 0 (p.written ++ rest) = p.shown lookup ++ expandFrom lookup 0 rest := by
  by_cases refers : p.name? = none
  · cases p with
    | plain c =>
        have unread : (if c == '$' then reference? rest else none) = none := by
          split
          · rename_i dollar
            exact not_reference_of_plain fits (beq_iff_eq.mp dollar)
          · rfl
        rw [Piece.written, List.singleton_append, expandFrom, unread]
        rfl
    | _ => cases refers
  · obtain ⟨name, tail, written, named, found⟩ := read_back fits refers
    rw [Piece.shown, named, written, List.cons_append, expand_reference found]
    rfl

theorem expand_cut {s : List Char} {pieces : List Piece} (cut : Cut s pieces) :
    expandFrom lookup 0 s = pieces.flatMap (Piece.shown lookup) := by
  induction cut with
  | done => rfl
  | piece fits _ ih => rw [expand_piece fits, ih, List.flatMap_cons]

/-- What a piece comes to depends on the variable it refers to. -/
theorem shown_congr {p : Piece} (same : ∀ name, p.name? = some name → lookup name = lookup' name) :
    p.shown lookup = p.shown lookup' := by
  rw [Piece.shown, Piece.shown]
  cases refers : p.name? with
  | none => rfl
  | some name => rw [Option.bind_some, Option.bind_some, same name refers]

theorem expand_congr {s : List Char} {pieces : List Piece} (cut : Cut s pieces)
    (same : ∀ name ∈ names pieces, lookup name = lookup' name) :
    expandFrom lookup 0 s = expandFrom lookup' 0 s := by
  rw [expand_cut cut, expand_cut cut]
  refine List.flatMap_congr fun p member => shown_congr fun name refers => same name ?_
  exact List.mem_filterMap.mpr ⟨p, member, refers⟩

/-- Where no variable is set, everything is left as it is written. -/
theorem expand_unset {s : List Char} {pieces : List Piece} (cut : Cut s pieces) :
    expandFrom (fun _ => none) 0 s = s := by
  rw [expand_cut cut]
  refine Eq.trans (List.flatMap_congr fun p _ => ?_) cut.written
  rw [Piece.shown, Option.bind_fun_none]

end Expansion

/-! ### Values -/

/-- What is found in a value along places in lists. Tables are not entered. -/
def reach? : Datum → List Nat → Option Datum
  | d, [] => some d
  | .list items, n :: path => items[n]?.bind fun item => reach? item path
  | _, _ :: _ => none

/-- What becomes of a value in its place: a text is expanded, a list keeps its length, and any other
value stays as it is. -/
inductive Replaced (lookup : String → Option String) : Datum → Datum → Prop
  | text (s : String) : Replaced lookup (.text s) (.text (expandText lookup s))
  | list {items items' : List Datum} (length : items'.length = items.length) :
      Replaced lookup (.list items) (.list items')
  | other {d : Datum} (noText : ∀ s, d ≠ .text s) (noList : ∀ items, d ≠ .list items) :
      Replaced lookup d d

theorem expand_values_eq (lookup : String → Option String) (items : List Datum) :
    expandValues lookup items = items.map (expandValue lookup) := by
  induction items with
  | nil => rfl
  | cons item rest ih => rw [expandValues, ih, List.map_cons]

theorem replaced_expand (lookup : String → Option String) (d : Datum) :
    Replaced lookup d (expandValue lookup d) := by
  cases d with
  | text s => exact .text s
  | list items =>
      rw [expandValue, expand_values_eq]
      exact .list (List.length_map _)
  | _ => exact .other nofun nofun

theorem reach_expand (lookup : String → Option String) (path : List Nat) (d : Datum) :
    reach? (expandValue lookup d) path = (reach? d path).map (expandValue lookup) := by
  induction path generalizing d with
  | nil => simp only [reach?, Option.map_some]
  | cons n path ih =>
      cases d with
      | list items =>
          simp only [expandValue, expand_values_eq, reach?, List.getElem?_map, Option.bind_map,
            Option.map_bind]
          congr 1
          funext item
          exact ih item
      | _ => rfl

/-- Expansion is a single pass. A text has one cut into pieces, and for every environment expanding it
shows them one after another. So only the variables that it refers to matter, and where none of them is
set it is left as it is. In a value, whatever is reached through lists alone is replaced in its place,
and nothing is reached that was not there. -/
theorem expansion_single_pass (s : String) (d : Datum) :
    (∃ pieces, (∀ other, Cut s.toList other ↔ other = pieces) ∧
      (∀ lookup, (expandText lookup s).toList = pieces.flatMap (Piece.shown lookup)) ∧
      (∀ lookup lookup', (∀ name ∈ names pieces, lookup name = lookup' name) →
        expandText lookup s = expandText lookup' s) ∧
      ∀ lookup, (∀ name ∈ names pieces, lookup name = none) → expandText lookup s = s) ∧
    ∀ lookup path,
      Option.Rel (Replaced lookup) (reach? d path) (reach? (expandValue lookup d) path) := by
  constructor
  · obtain ⟨pieces, cut⟩ := exists_cut s.toList
    refine ⟨pieces, ?_, ?_, ?_, ?_⟩
    · intro other
      exact ⟨fun cut' => cut_unique cut' cut, fun same => same ▸ cut⟩
    · intro lookup
      rw [expandText, String.toList_ofList, expand_cut cut]
    · intro lookup lookup' same
      rw [expandText, expand_congr cut same, expandText]
    · intro lookup unset
      rw [expandText, expand_congr cut unset, expand_unset cut, String.ofList_toList]
  · intro lookup path
    rw [reach_expand]
    cases reach? d path with
    | none => exact .none
    | some found => exact .some (replaced_expand lookup found)

/-- References of both forms that touch each other, behind a dollar sign of its own and before braces
with nothing in them. -/
def entangled : String := "$$A$\x7bA b\x7d$\x7b\x7d"

def entangledPieces : List Piece :=
  [.plain '$', .bare ['A'], .braced ['A', ' ', 'b'], .plain '$', .plain '\x7b', .plain '\x7d']

theorem entangled_cut : Cut entangled.toList entangledPieces := by
  have unnamed {rest : List Char} (none : reference? rest = none) : ¬Named rest :=
    fun named => reference_of_named named none
  have stops (c : Char) (rest : List Char) (other : Text.isWord c = false) : NoWord (c :: rest) :=
    fun _ _ same => (List.cons.inj same).1 ▸ other
  have braces : Cut ['$', '\x7b', '\x7d'] [.plain '$', .plain '\x7b', .plain '\x7d'] :=
    .piece (p := .plain '$') (fun _ => unnamed (by decide)) <|
      .piece (p := .plain '\x7b') (fun dollar => absurd dollar (by decide)) <|
      .piece (p := .plain '\x7d') (fun dollar => absurd dollar (by decide)) .done
  have letter : ∀ c ∈ ['A'], Text.isWord c = true := List.forall_mem_singleton.mpr (by decide)
  have both := Cut.piece (p := .bare ['A']) ⟨by decide, letter, stops '$' _ (by decide)⟩ <|
    .piece (p := .braced ['A', ' ', 'b']) ⟨by decide, by decide⟩ braces
  exact .piece (p := .plain '$') (fun _ => unnamed (by decide)) both

/-- An environment where the value of a variable looks like a reference to another. -/
def chained (other : Option String) (name : String) : Option String :=
  if name = "A" then some "$B" else if name = "B" then other else none

/-- What is put in is not looked at again: whether the variable that it names is set makes no
difference. A table in a list is left alone. -/
theorem entangled_expanded_once :
    expandText (chained (some "C")) entangled = expandText (chained none) entangled ∧
      expandText (chained none) entangled = "$$B$\x7bA b\x7d$\x7b\x7d" ∧
      Option.Rel (Replaced (chained none)) (some (.table [("A", .text "$A")])) (reach?
        (expandValue (chained none) (.list [.text "$A", .table [("A", .text "$A")]])) [1]) := by
  obtain ⟨⟨pieces, unique, _, same, _⟩, values⟩ :=
    expansion_single_pass entangled (.list [.text "$A", .table [("A", .text "$A")]])
  have known : entangledPieces = pieces := (unique _).mp entangled_cut
  subst known
  have others : ∀ name ∈ names entangledPieces, name ≠ "B" := by decide
  refine ⟨same _ _ fun name member => ?_, by decide, values _ [1]⟩
  simp only [chained, if_neg (others name member)]

end PlaybookLint.Environment
