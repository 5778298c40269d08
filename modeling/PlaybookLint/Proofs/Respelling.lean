import PlaybookLint.Proofs.ErrorPlace
import PlaybookLint.Proofs.LineEnds

/-!
Failure texts with other line ends. Carriage returns that are put in front of line feeds change neither
which phrases are found in a text nor what stands between them. Two things are read across the end of a
line or up to it: a place whose words are parted by a line feed, and a message that goes on to the end
of its line.
-/

namespace PlaybookLint

namespace Text

/-! ### Texts without carriage returns, and with some -/

/-- The first text has no carriage returns; the second is the first with some put in front of its line
feeds. -/
inductive Widened : List Char → List Char → Prop
  | nil : Widened [] []
  | kept {c : Char} {s t : List Char} (bare : c ≠ '\r') (later : Widened s t) :
      Widened (c :: s) (c :: t)
  | widened {s t : List Char} (later : Widened s t) : Widened ('\n' :: s) ('\r' :: '\n' :: t)

theorem Respelled.widened_of_plain {s t : List Char} (respelled : Respelled s t) (plain : '\r' ∉ s) :
    Widened s t := by
  induction respelled with
  | nil => exact .nil
  | kept c later ih =>
      rw [List.mem_cons, not_or] at plain
      exact .kept (Ne.symm plain.1) (ih plain.2)
  | widened later ih =>
      rw [List.mem_cons, not_or] at plain
      exact .widened (ih plain.2)

namespace Widened

variable {s t : List Char}

theorem all_blank (w : Widened s t) : t.all isBlank = s.all isBlank := by
  induction w with
  | nil => rfl
  | kept _ _ ih => rw [List.all_cons, List.all_cons, ih]
  | widened _ ih => simp only [List.all_cons, ih]; rfl

/-- What stands on the first line stays in front of the text. -/
theorem of_front {front a : List Char} (noFeed : '\n' ∉ front) (w : Widened (front ++ a) t) :
    ∃ b, t = front ++ b ∧ Widened a b := by
  induction front generalizing t with
  | nil => exact ⟨t, rfl, w⟩
  | cons c front ih =>
      rw [List.mem_cons, not_or] at noFeed
      cases w with
      | kept _ later =>
          obtain ⟨b, rfl, later'⟩ := ih noFeed.2 later
          exact ⟨b, rfl, later'⟩
      | widened _ => exact absurd rfl noFeed.1

/-- What stands in front of the first carriage return was in front of the text already. -/
theorem to_front {front b : List Char} (noReturn : '\r' ∉ front) (w : Widened s (front ++ b)) :
    ∃ a, s = front ++ a ∧ Widened a b := by
  induction front generalizing s with
  | nil => exact ⟨s, rfl, w⟩
  | cons c front ih =>
      rw [List.mem_cons, not_or] at noReturn
      generalize whole : c :: front ++ b = t at w
      cases w with
      | nil => cases whole
      | kept _ later =>
          obtain ⟨rfl, rfl⟩ := List.cons.inj whole
          obtain ⟨a, rfl, later'⟩ := ih noReturn.2 later
          exact ⟨a, rfl, later'⟩
      | widened _ => exact absurd (List.cons.inj whole).1.symm noReturn.1

/-- Behind a carriage return there is a line feed. -/
theorem feed_follows {front behind : List Char} (w : Widened s (front ++ '\r' :: behind)) :
    behind.head? = some '\n' := by
  generalize whole : front ++ '\r' :: behind = t at w
  induction w generalizing front with
  | nil => cases (List.append_eq_nil_iff.mp whole).2
  | kept bare later ih =>
      cases front with
      | nil => exact absurd (List.cons.inj whole).1.symm bare
      | cons d front => exact ih (List.cons.inj whole).2
  | widened later ih =>
      rcases front with _ | ⟨d, _ | ⟨e, front⟩⟩
      · rw [(List.cons.inj whole).2]
        rfl
      · cases (List.cons.inj (List.cons.inj whole).2).1
      · exact ih (List.cons.inj (List.cons.inj whole).2).2

theorem runs {test : Char → Bool} (feed : test '\n' = false) (ret : test '\r' = false)
    (w : Widened s t) :
    t.takeWhile test = s.takeWhile test ∧ Widened (s.dropWhile test) (t.dropWhile test) := by
  induction w with
  | nil => exact ⟨rfl, .nil⟩
  | @kept c s t bare later ih =>
      cases passes : test c with
      | true =>
          simpa only [List.takeWhile_cons, List.dropWhile_cons, passes, if_true, List.cons.injEq,
            true_and] using ih
      | false =>
          simp only [List.takeWhile_cons, List.dropWhile_cons, passes, Bool.false_eq_true, if_false,
            true_and]
          exact .kept bare later
  | widened later ih =>
      simp only [List.takeWhile_cons, List.dropWhile_cons, feed, ret, Bool.false_eq_true, if_false,
        true_and]
      exact .widened later

/-- The rest of the line is the same, or has a carriage return at its end. -/
theorem rest_of_line (w : Widened s t) :
    t.takeWhile (· != '\n') = s.takeWhile (· != '\n') ∨
      t.takeWhile (· != '\n') = s.takeWhile (· != '\n') ++ ['\r'] := by
  induction w with
  | nil => exact .inl rfl
  | @kept c s t bare later ih =>
      by_cases feed : c = '\n'
      · rw [feed]
        exact .inl rfl
      · have passes : (c != '\n') = true := bne_iff_ne.mpr feed
        simpa only [List.takeWhile_cons, passes, if_true, List.cons_append, List.cons.injEq, true_and]
          using ih
  | widened later ih => exact .inr rfl

end Widened

end Text

namespace Failure

open Text (Widened)

variable {α β : Type} {s t : List Char}

/-! ### Phrases on one line -/

/-- A phrase that is not empty and stands on one line. -/
def OneLine (phrase : List Char) : Prop := phrase ≠ [] ∧ '\n' ∉ phrase ∧ '\r' ∉ phrase

instance : DecidablePred OneLine := fun _ => inferInstanceAs (Decidable (_ ∧ _ ∧ _))

theorem prefix_at_end {phrase : List Char} {c : Char} (filled : phrase ≠ []) (absent : c ∉ phrase)
    (rest : List Char) : phrase.isPrefixOf (c :: rest) = false := by
  obtain ⟨d, phrase, rfl⟩ := List.exists_cons_of_ne_nil filled
  have other : (d == c) = false :=
    beq_eq_false_iff_ne.mpr fun same => absent (same ▸ List.mem_cons_self)
  simp only [List.isPrefixOf, other, Bool.false_and]

theorem after_widened {phrase : List Char} (noFeed : '\n' ∉ phrase) (noReturn : '\r' ∉ phrase)
    (w : Widened s t) : Option.Rel Widened (after? phrase s) (after? phrase t) := by
  cases there : after? phrase s with
  | some a =>
      rw [after_eq_some_iff] at there
      subst there
      obtain ⟨b, cut, later⟩ := w.of_front noFeed
      rw [(after_eq_some_iff phrase t b).mpr cut]
      exact .some later
  | none =>
      cases there' : after? phrase t with
      | none => exact .none
      | some b =>
          rw [after_eq_some_iff] at there'
          subst there'
          obtain ⟨a, cut, _⟩ := w.to_front noReturn
          cases there.symm.trans ((after_eq_some_iff phrase s a).mpr cut)

theorem prefix_widened {phrase : List Char} (one : OneLine phrase) (w : Widened s t) :
    phrase.isPrefixOf t = phrase.isPrefixOf s := by
  have alike := after_widened one.2.1 one.2.2 w
  simp only [after?] at alike
  cases inS : phrase.isPrefixOf s <;> cases inT : phrase.isPrefixOf t <;>
    simp only [inS, inT, Bool.false_eq_true, if_false, if_true] at alike ⊢ <;> cases alike

theorem up_to_last_widened {phrase : List Char} (one : OneLine phrase) (w : Widened s t) :
    upToLast phrase.isPrefixOf t = upToLast phrase.isPrefixOf s := by
  have atFeed (rest : List Char) := prefix_at_end one.1 one.2.1 rest
  have atReturn (rest : List Char) := prefix_at_end one.1 one.2.2 rest
  induction w with
  | nil => rfl
  | @kept c s t bare later ih => rw [upToLast, upToLast, ih, prefix_widened one (.kept bare later)]
  | widened later ih =>
      -- Both texts end their line here, and the phrase begins with neither character.
      have isFeed : ('\n' == '\n') = true := rfl
      have isReturn : ('\r' == '\n') = false := rfl
      simp only [upToLast, atFeed, atReturn, isFeed, isReturn, if_true, Bool.false_eq_true, if_false]

theorem between_here_widened {opening closing : String} (one : OneLine opening.toList)
    (one' : OneLine closing.toList) (w : Widened s t) :
    betweenHere opening closing t = betweenHere opening closing s := by
  rw [betweenHere, betweenHere]
  have alike := after_widened one.2.1 one.2.2 w
  revert alike
  generalize after? opening.toList s = x
  generalize after? opening.toList t = y
  intro alike
  cases alike with
  | none => rfl
  | some later => exact up_to_last_widened one' later

theorem mentions_widened {phrase : String} (one : OneLine phrase.toList) (w : Widened s t) :
    mentions phrase t = mentions phrase s := by
  have atFeed (rest : List Char) := prefix_at_end one.1 one.2.1 rest
  have atReturn (rest : List Char) := prefix_at_end one.1 one.2.2 rest
  rw [mentions, mentions]
  induction w with
  | nil => rfl
  | kept bare later ih =>
      rw [Text.occurs, Text.occurs, prefix_widened one (.kept bare later), ih]
  | widened later ih =>
      rw [Text.occurs, Text.occurs, Text.occurs, atFeed, atFeed, atReturn, ih, Bool.false_or]

/-! ### The first place -/

/-- Where nothing is found at a carriage return, what is found first in two texts is related if what is
found at the same places is. -/
theorem first_place_widened {relates : α → β → Prop} {here : List Char → Option α}
    {here' : List Char → Option β} (w : Widened s t)
    (alike : ∀ a b, a <:+ s → Widened a b → Option.Rel relates (here a) (here' b))
    (absent : ∀ rest, here' ('\r' :: rest) = none) :
    Option.Rel relates (firstPlace here s) (firstPlace here' t) := by
  induction w with
  | nil => exact alike [] [] (List.suffix_refl _) .nil
  | @kept c s t bare later ih =>
      have found := alike _ _ (List.suffix_refl _) (.kept bare later)
      have onward := ih fun a b suffix => alike a b (suffix.trans (List.suffix_cons c s))
      rw [firstPlace, firstPlace]
      cases inS : here (c :: s) <;> cases inT : here' (c :: t) <;> rw [inS, inT] at found
      · exact onward
      · cases found
      · cases found
      · exact found
  | @widened s t later ih =>
      have found := alike _ _ (List.suffix_refl _) (.kept (by decide) later)
      have onward := ih fun a b suffix => alike a b (suffix.trans (List.suffix_cons '\n' s))
      -- Nothing is found at the carriage return, and the line feed behind it stands for that of the first.
      rw [firstPlace, firstPlace, firstPlace, absent]
      cases inS : here ('\n' :: s) <;> cases inT : here' ('\n' :: t) <;> rw [inS, inT] at found
      · exact onward
      · cases found
      · cases found
      · exact found

theorem rel_eq_iff {x y : Option α} : Option.Rel (· = ·) x y ↔ x = y := by
  constructor
  · intro related
    cases related with
    | none => rfl
    | some same => exact congrArg some same
  · rintro rfl
    cases x with
    | none => exact .none
    | some a => exact .some rfl

theorem first_place_same {here : List Char → Option α} (w : Widened s t)
    (same : ∀ a b, a <:+ s → Widened a b → here b = here a)
    (absent : ∀ rest, here ('\r' :: rest) = none) : firstPlace here t = firstPlace here s := by
  have alike (a b : List Char) (suffix : a <:+ s) (later : Widened a b) :
      Option.Rel (· = ·) (here a) (here b) := rel_eq_iff.mpr (same a b suffix later).symm
  have related := first_place_widened w alike absent
  exact (rel_eq_iff.mp related).symm

theorem between_at_return {opening : String} (one : OneLine opening.toList) (closing : String)
    (rest : List Char) : betweenHere opening closing ('\r' :: rest) = none := by
  rw [betweenHere, after?, prefix_at_end one.1 one.2.2]
  rfl

theorem between_widened {opening closing : String} (one : OneLine opening.toList)
    (one' : OneLine closing.toList) (w : Widened s t) :
    between opening closing t = between opening closing s :=
  first_place_same w (fun _ _ _ later => between_here_widened one one' later)
    (between_at_return one closing)

theorem unreadable_widened (w : Widened s t) :
    firstPlace unreadableHere t = firstPlace unreadableHere s := by
  refine first_place_same w (fun a b _ later => ?_) fun rest => ?_
  · simp only [unreadableHere]
    rw [between_here_widened (by decide) (by decide) later,
      between_here_widened (by decide) (by decide) later,
      between_here_widened (by decide) (by decide) later]
  · simp only [unreadableHere]
    rw [between_at_return (by decide), between_at_return (by decide),
      between_at_return (by decide)]
    rfl

namespace Table

/-- The rows of the default table recognise a text with other line ends alike, and capture the same. -/
theorem default_find_widened {row : Row} (member : row ∈ default) {s t : String}
    (w : Widened s.toList t.toList) : row.find t = row.find s := by
  simp only [default, List.mem_cons, List.not_mem_nil, or_false] at member
  rcases member with rfl | rfl | rfl | rfl | rfl | rfl | rfl
  all_goals apply congrArg Except.ok
  · rw [findMissingFile, findMissingFile, between_widened (by decide) (by decide) w]
  · rw [findUnreadableFile, findUnreadableFile, unreadable_widened w]
  · rw [findYamlSyntax, findYamlSyntax, mentions_widened (by decide) w]
  · simp only [findAnsibleSyntax, List.any_cons, List.any_nil]
    rw [mentions_widened (by decide) w, mentions_widened (by decide) w,
      mentions_widened (by decide) w, mentions_widened (by decide) w]
  · rw [findVault, findVault, mentionsOnLine, mentionsOnLine,
      between_widened (by decide) (by decide) w]
  · rw [findStdin, findStdin, mentions_widened (by decide) w]
  · rw [findSkipHint, findSkipHint, mentions_widened (by decide) w]

theorem match_congr {table : Table} {s t : String} (alike : ∀ row ∈ table, row.find t = row.find s) :
    match? t table = match? s table := by
  induction table with
  | nil => rfl
  | cons row rest ih =>
      rw [match?, match?, alike row List.mem_cons_self,
        ih fun other among => alike other (List.mem_cons_of_mem row among)]

end Table

/-! ### Messages -/

/-- The text begins with the ending of a YAML file, a line number and a space, and the message is the
rest of the line. -/
structure Announces (text message : List Char) : Prop where
  single : '\n' ∉ message
  written : ∃ ending number rest, ending ∈ [".yml:", ".yaml:"] ∧ number ≠ [] ∧
    (∀ c ∈ number, Text.isDecimalDigit c = true) ∧ (∀ c, rest.head? = some c → c = '\n') ∧
    text = ending.toList ++ (number ++ ' ' :: (message ++ rest))

theorem yaml_line_here_eq_some_iff (text : List Char) (found : List Char × List Char) :
    yamlLineHere text = some found ↔ ∃ ending ∈ [".yml:", ".yaml:"], ∃ behind,
      text = ending.toList ++ behind ∧ digits? behind = some found := by
  have apart (behind : List Char) : after? ".yml:".toList (".yaml:".toList ++ behind) = none := rfl
  simp only [yamlLineHere, Option.orElse_eq_orElse, Option.orElse_eq_or, Option.bind_eq_bind,
    Option.bind_eq_some_iff, Option.or_eq_some_iff, after_eq_some_iff, List.mem_cons,
    List.not_mem_nil, or_false, exists_eq_or_imp, exists_eq_left]
  constructor
  · rintro ⟨behind, cut | ⟨_, cut⟩, read⟩
    · exact .inl ⟨behind, cut, read⟩
    · exact .inr ⟨behind, cut, read⟩
  · rintro (⟨behind, cut, read⟩ | ⟨behind, rfl, read⟩)
    · exact ⟨behind, .inl cut, read⟩
    · exact ⟨behind, .inr ⟨apart behind, rfl⟩, read⟩

theorem rest_of_line_eq_iff (text message : List Char) :
    text.takeWhile (· != '\n') = message ↔ '\n' ∉ message ∧
      ∃ rest, (∀ c, rest.head? = some c → c = '\n') ∧ text = message ++ rest := by
  constructor
  · rintro rfl
    refine ⟨fun feed => ?_, text.dropWhile (· != '\n'), ?_, List.takeWhile_append_dropWhile.symm⟩
    · have passes := Text.all_of_take_while text _ feed
      cases passes
    · intro c first
      have fails := List.head?_dropWhile_not (· != '\n') text
      rw [first] at fails
      simpa using fails
  · rintro ⟨single, rest, ends, rfl⟩
    have passes : ∀ c ∈ message, (c != '\n') = true :=
      fun c among => bne_iff_ne.mpr fun same => single (same ▸ among)
    rw [List.takeWhile_append_of_pos passes]
    cases rest with
    | nil => rw [List.takeWhile_nil, List.append_nil]
    | cons c rest =>
        rw [ends c rfl, List.takeWhile_cons]
        exact List.append_nil message

theorem yaml_message_here_eq_some_iff (text message : List Char) :
    yamlMessageHere text = some message ↔ Announces text message := by
  simp only [yamlMessageHere, Option.bind_eq_bind, Option.bind_eq_some_iff, Prod.exists,
    yaml_line_here_eq_some_iff, after_eq_some_iff, digits_eq_some_iff, pure, Option.some.injEq,
    rest_of_line_eq_iff]
  constructor
  · rintro ⟨number, _, ⟨ending, known, _, rfl, filled, decimal, rfl, _⟩, _, rfl, single, rest, ends,
      rfl⟩
    exact ⟨single, ending, number, rest, known, filled, decimal, ends, rfl⟩
  · rintro ⟨single, ending, number, rest, known, filled, decimal, ends, rfl⟩
    have noDigit : Text.isDecimalDigit ' ' = false := by decide +kernel
    refine ⟨number, _, ⟨ending, known, _, rfl, filled, decimal, rfl, ?_⟩, _, rfl, single, rest,
      ends, rfl⟩
    intro c first
    cases first
    exact noDigit

theorem yaml_message_eq_some_iff (text message : List Char) :
    yamlMessage? text = some message ↔ First Announces text message :=
  first_place_eq_some_iff yaml_message_here_eq_some_iff text message

/-- The second message is the first, or the first with a carriage return behind it. -/
def Trails (message message' : List Char) : Prop :=
  message' = message ∨ message' = message ++ ['\r']

theorem feed_not_digit : Text.isDecimalDigit '\n' = false := by decide +kernel

theorem return_not_digit : Text.isDecimalDigit '\r' = false := by decide +kernel

theorem digits_widened (w : Widened s t) :
    Option.Rel (fun found found' => found.1 = found'.1 ∧ Widened found.2 found'.2)
      (digits? s) (digits? t) := by
  obtain ⟨same, later⟩ := w.runs feed_not_digit return_not_digit
  rw [digits?, digits?, same]
  cases (s.takeWhile Text.isDecimalDigit).isEmpty with
  | true => exact .none
  | false => exact .some ⟨rfl, later⟩

theorem rel_bind {γ δ : Type} {relates : α → β → Prop} {relates' : γ → δ → Prop} {x : Option α}
    {y : Option β} {f : α → Option γ} {g : β → Option δ} (first : Option.Rel relates x y)
    (next : ∀ a b, relates a b → Option.Rel relates' (f a) (g b)) :
    Option.Rel relates' (x.bind f) (y.bind g) := by
  cases first with
  | none => exact .none
  | some related => exact next _ _ related

theorem yaml_line_here_widened (w : Widened s t) :
    Option.Rel (fun found found' => found.1 = found'.1 ∧ Widened found.2 found'.2)
      (yamlLineHere s) (yamlLineHere t) := by
  have named : Option.Rel Widened (after? ".yml:".toList s <|> after? ".yaml:".toList s)
      (after? ".yml:".toList t <|> after? ".yaml:".toList t) := by
    have short := after_widened (by decide : '\n' ∉ ".yml:".toList) (by decide) w
    have long := after_widened (by decide : '\n' ∉ ".yaml:".toList) (by decide) w
    simp only [Option.orElse_eq_orElse, Option.orElse_eq_or]
    cases inS : after? ".yml:".toList s <;> cases inT : after? ".yml:".toList t <;>
      rw [inS, inT] at short
    · exact long
    · cases short
    · cases short
    · exact short
  exact rel_bind named fun _ _ later => digits_widened later

theorem yaml_message_here_widened (w : Widened s t) :
    Option.Rel Trails (yamlMessageHere s) (yamlMessageHere t) := by
  refine rel_bind (yaml_line_here_widened w) fun found found' ⟨_, later⟩ => ?_
  refine rel_bind (after_widened (by decide) (by decide) later) fun a b behind => ?_
  exact .some behind.rest_of_line

theorem yaml_message_widened (w : Widened s t) :
    Option.Rel Trails (yamlMessage? s) (yamlMessage? t) :=
  first_place_widened w (fun _ _ _ later => yaml_message_here_widened later) fun _ => rfl

/-! ### Places -/

/-- The range that a text tells for an error in YAML. -/
def rangeRead (text : List Char) : Except HandlerFault Range :=
  (lineColumn? text).elim (.ok Range.fileStart) rangeOfDigits

theorem digits_not_feed {digits rest : List Char} (filled : digits ≠ [])
    (decimal : ∀ c ∈ digits, Text.isDecimalDigit c = true) : (digits ++ rest).head? ≠ some '\n' := by
  obtain ⟨d, digits, rfl⟩ := List.exists_cons_of_ne_nil filled
  intro first
  have digit := decimal d List.mem_cons_self
  rw [Option.some.inj first, feed_not_digit] at digit
  cases digit

theorem return_not_in_digits {digits : List Char}
    (decimal : ∀ c ∈ digits, Text.isDecimalDigit c = true) : '\r' ∉ digits := by
  intro among
  have digit := decimal _ among
  rw [return_not_digit] at digit
  cases digit

theorem ends_narrowed (w : Widened s t)
    (ends : ∀ c, t.head? = some c → Text.isDecimalDigit c = false) :
    ∀ c, s.head? = some c → Text.isDecimalDigit c = false := by
  cases w with
  | nil => exact ends
  | kept _ _ => exact ends
  | widened _ =>
      intro c first
      cases first
      exact feed_not_digit

/-- A place that is told with other line ends was told before: no carriage return parts its words, for
a line feed would follow. -/
theorem Places.narrowed (w : Widened s t) {place : List Char × List Char} (places : Places t place) :
    Places s place := by
  obtain ⟨line, column⟩ := place
  obtain ⟨⟨filled, filled'⟩, ⟨decimal, decimal'⟩, before, between, after, rest, blank, blank', blank'',
    ends, written⟩ := places
  have notBefore : before ≠ '\r' := by
    rintro rfl
    rw [written] at w
    exact digits_not_feed filled decimal w.feed_follows
  have notBetween : between ≠ '\r' := by
    rintro rfl
    have cut : t = ("line".toList ++ before :: (line ++ ",".toList)) ++
        '\r' :: ("column".toList ++ after :: (column ++ rest)) := by
      rw [written]
      simp only [List.append_assoc, List.cons_append]
    rw [cut] at w
    cases w.feed_follows
  have notAfter : after ≠ '\r' := by
    rintro rfl
    have cut : t = ("line".toList ++ before :: (line ++ (",".toList ++ between ::
        "column".toList))) ++ '\r' :: (column ++ rest) := by
      rw [written]
      simp only [List.append_assoc, List.cons_append]
    rw [cut] at w
    exact digits_not_feed filled' decimal' w.feed_follows
  have cut : t = ("line".toList ++ before :: (line ++ (",".toList ++ between :: ("column".toList ++
      after :: column)))) ++ rest := by
    rw [written]
    simp only [List.append_assoc, List.cons_append]
  have noReturn : '\r' ∉ "line".toList ++ before :: (line ++ (",".toList ++ between ::
      ("column".toList ++ after :: column))) := by
    simp only [List.mem_append, List.mem_cons, return_not_in_digits decimal,
      return_not_in_digits decimal', notBefore.symm, notBetween.symm, notAfter.symm, false_or, or_false]
    decide
  rw [cut] at w
  obtain ⟨rest', rfl, later⟩ := w.to_front noReturn
  refine ⟨⟨filled, filled'⟩, ⟨decimal, decimal'⟩, before, between, after, rest', blank, blank',
    blank'', ends_narrowed later ends, ?_⟩
  simp only [List.append_assoc, List.cons_append]

theorem Places.longer {place : List Char × List Char} (places : Places s place) {rest : List Char}
    (ends : ∀ c, rest.head? = some c → Text.isDecimalDigit c = false) : Places (s ++ rest) place := by
  obtain ⟨filled, decimal, before, between, after, rest', blank, blank', blank'', ends', rfl⟩ := places
  refine ⟨filled, decimal, before, between, after, rest' ++ rest, blank, blank', blank'', ?_, ?_⟩
  · cases rest' with
    | nil => exact ends
    | cons c rest' => exact ends'
  · simp only [List.append_assoc, List.cons_append]

/-- Every place that the text tells is told within a line. -/
def ToldInLines (text : List Char) : Prop :=
  ∀ rest place, rest <:+ text → Places rest place → Places (rest.takeWhile (· != '\n')) place

/-- A place that is told within a line is told with other line ends as well. -/
theorem Places.widened (w : Widened s t) {place : List Char × List Char}
    (places : Places (s.takeWhile (· != '\n')) place) : Places t place := by
  obtain ⟨single, rest, ends, cut⟩ := (rest_of_line_eq_iff s _).mp rfl
  rw [cut] at w
  obtain ⟨rest', rfl, later⟩ := w.of_front single
  refine places.longer ?_
  cases later with
  | nil => exact nofun
  | kept _ _ =>
      intro c first
      rw [ends c first]
      exact feed_not_digit
  | widened _ =>
      intro c first
      cases first
      exact return_not_digit

theorem line_column_widened (w : Widened s t) (told : ToldInLines s) :
    lineColumn? t = lineColumn? s := by
  refine first_place_same w (fun a b suffix later => ?_) fun _ => rfl
  apply Option.ext
  intro place
  rw [line_column_here_eq_some_iff, line_column_here_eq_some_iff]
  exact ⟨fun places => places.narrowed later,
    fun places => (told a place suffix places).widened later⟩

theorem range_read_widened (w : Widened s t) (told : ToldInLines s) : rangeRead t = rangeRead s := by
  rw [rangeRead, rangeRead, line_column_widened w told]

/-- Across the end of a line, a place is told only if that is a mere line feed. -/
example : lineColumn? "line\n3, column 5".toList = some (['3'], ['5']) ∧
    lineColumn? "line\r\n3, column 5".toList = none := by decide +kernel

end Failure

end PlaybookLint
