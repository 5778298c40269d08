import PlaybookLint.Proofs.Capture
import PlaybookLint.Proofs.Decoding

/-!
Outputs that differ in one line. The lines of a text that was read from octets are the texts of the
lines that the octets have, so octets that form no characters spoil no line but their own, and every
other line of a report gives the same as before.
-/

namespace PlaybookLint

/-- Two lists of one length are the same but for one place. -/
structure AlikeBut {α : Type} (i : Nat) (a b : List α) : Prop where
  length : a.length = b.length
  elsewhere : ∀ j, j ≠ i → a[j]? = b[j]?

theorem AlikeBut.map {α β : Type} {i : Nat} {a b : List α} (alike : AlikeBut i a b) (f : α → β) :
    AlikeBut i (a.map f) (b.map f) where
  length := by rw [List.length_map, List.length_map, alike.length]
  elsewhere j other := by rw [List.getElem?_map, List.getElem?_map, alike.elsewhere j other]

theorem AlikeBut.of_map {α β : Type} {i : Nat} {a b : List α} {f : α → β}
    (injective : Function.Injective f) (alike : AlikeBut i (a.map f) (b.map f)) : AlikeBut i a b where
  length := by simpa only [List.length_map] using alike.length
  elsewhere j other := by
    have same := alike.elsewhere j other
    rw [List.getElem?_map, List.getElem?_map] at same
    exact Option.map_injective injective same

theorem AlikeBut.middle {α : Type} (a : List α) (x y : α) (b : List α) :
    AlikeBut a.length (a ++ x :: b) (a ++ y :: b) where
  length := by rw [List.length_append, List.length_append, List.length_cons, List.length_cons]
  elsewhere j other := by
    rcases Nat.lt_or_gt_of_ne other with before | behind
    · rw [List.getElem?_append_left before, List.getElem?_append_left before]
    · obtain ⟨k, rfl⟩ := Nat.exists_eq_add_of_lt behind
      rw [Nat.add_assoc, List.getElem?_append_right (Nat.le_add_right _ _),
        List.getElem?_append_right (Nat.le_add_right _ _), Nat.add_sub_cancel_left,
        List.getElem?_cons_succ, List.getElem?_cons_succ]

namespace Text

/-! ### Lines cut at line feeds -/

/-- A line without a carriage return at its end. -/
def dropReturn (line : List Char) : List Char :=
  if line.getLast? = some '\r' then line.dropLast else line

/-- The lines of a text that was cut at its line feeds: where a line feed follows, a carriage return at
the end belongs to the line end. -/
def withoutReturns : List (List Char) → List (List Char)
  | [] => []
  | [last] => [last]
  | piece :: next :: rest => dropReturn piece :: withoutReturns (next :: rest)

theorem split_lines_cut {first : List Char} (single : '\n' ∉ first) (rest : List Char) :
    splitLines (first ++ '\n' :: rest) = dropReturn first :: splitLines rest := by
  rw [dropReturn]
  split
  · rename_i ends
    obtain ⟨front, rfl⟩ := List.getLast?_eq_some_iff.mp ends
    have single' : '\n' ∉ front := fun feed => single (List.mem_append_left _ feed)
    rw [List.dropLast_concat, List.append_assoc, List.singleton_append,
      split_lines_append (split_lines_return_feed rest) fun _ => nofun,
      split_lines_single single', List.singleton_append]
  · rename_i apart
    rw [split_lines_append (split_lines_feed rest) fun last => absurd last apart,
      split_lines_single single, List.singleton_append]

theorem split_lines_eq (s : List Char) : splitLines s = withoutReturns (s.splitOn '\n') := by
  induction s using cut_induction '\n' with
  | single s absent => rw [split_lines_single absent, List.splitOn_eq_singleton absent, withoutReturns]
  | cut first rest before ih =>
      obtain ⟨next, later, cut⟩ := List.exists_cons_of_ne_nil (List.splitOn_ne_nil '\n' rest)
      rw [split_lines_cut before, ih, List.splitOn_append_cons_self_of_not_mem before, cut,
        withoutReturns]

theorem length_without_returns (pieces : List (List Char)) :
    (withoutReturns pieces).length = pieces.length := by
  fun_induction withoutReturns pieces with
  | case1 => rfl
  | case2 => rfl
  | case3 piece next rest ih => exact congrArg (· + 1) ih

/-- What becomes of a piece is settled by the piece and by whether another follows. -/
theorem get_without_returns (pieces : List (List Char)) (j : Nat) :
    (withoutReturns pieces)[j]? =
      if j + 1 < pieces.length then pieces[j]?.map dropReturn else pieces[j]? := by
  fun_induction withoutReturns pieces generalizing j with
  | case1 => rfl
  | case2 last => simp
  | case3 piece next rest ih =>
      cases j with
      | zero => simp
      | succ j =>
          rw [List.getElem?_cons_succ, ih, List.getElem?_cons_succ]
          simp only [List.length_cons, Nat.add_lt_add_iff_right]

theorem without_returns_alike {i : Nat} {pieces pieces' : List (List Char)}
    (alike : AlikeBut i pieces pieces') : AlikeBut i (withoutReturns pieces) (withoutReturns pieces') where
  length := by rw [length_without_returns, length_without_returns, alike.length]
  elsewhere j other := by
    rw [get_without_returns, get_without_returns, alike.length, alike.elsewhere j other]

namespace Utf8

/-- The texts of the lines that octets have. -/
def lineTexts (octets : List UInt8) : List (List Char) :=
  withoutReturns ((octets.splitOn feed).map fun line => (decodeReplacing line).toList)

theorem split_decoded (octets : List UInt8) :
    (decodeReplacing octets).toList.splitOn '\n' =
      (octets.splitOn feed).map fun line => (decodeReplacing line).toList := by
  induction octets using cut_induction feed with
  | single octets absent =>
      rw [List.splitOn_eq_singleton absent, List.splitOn_eq_singleton (feed_not_decoded absent),
        List.map_singleton]
  | cut first rest before ih =>
      have text : (decodeReplacing (first ++ feed :: rest)).toList =
          (decodeReplacing first).toList ++ '\n' :: (decodeReplacing rest).toList := by
        rw [decode_replacing_feed, String.toList_append, String.toList_append, List.append_assoc]
        rfl
      rw [text, List.splitOn_append_cons_self_of_not_mem (feed_not_decoded before), ih,
        List.splitOn_append_cons_self_of_not_mem before, List.map_cons]

/-- The text of octets has the lines that they have. -/
theorem split_lines_decoded (octets : List UInt8) :
    splitLines (decodeReplacing octets).toList = lineTexts octets := by
  rw [split_lines_eq, split_decoded, lineTexts]

theorem line_texts_alike {i : Nat} {octets octets' : List UInt8}
    (alike : AlikeBut i (octets.splitOn feed) (octets'.splitOn feed)) :
    AlikeBut i (lineTexts octets) (lineTexts octets') :=
  without_returns_alike (alike.map _)

end Utf8

end Text

namespace Report

open Text.Utf8

variable {target : Target} {octets octets' : List UInt8} {found found' : List Diagnostic}

/-! ### Reports of several parts -/

/-- What was read from the lines of several parts is what each part gives, in order. -/
theorem parts_of_read {parts : List (List (List Char))}
    (read : diagnosticsOfLines target parts.flatten = .ok found) :
    ∃ pieces : List (List Diagnostic),
      parts.map (diagnosticsOfLines target) = pieces.map .ok ∧ found = pieces.flatten := by
  induction parts generalizing found with
  | nil =>
      cases read
      exact ⟨[], rfl, rfl⟩
  | cons part parts ih =>
      rw [List.flatten_cons, diagnostics_of_lines_append] at read
      obtain ⟨given, here, read⟩ := Outcome.bind_ok read
      obtain ⟨others, later, joined⟩ := Outcome.bind_ok read
      obtain ⟨pieces, each, rfl⟩ := ih later
      cases joined
      exact ⟨given :: pieces, by rw [List.map_cons, List.map_cons, here, each], rfl⟩

/-- A way to shape a text takes every line for itself. -/
def ByLine (shape : List Char → List Char) : Prop :=
  ∀ s, Text.splitLines (shape s) =
    (Text.splitLines s).flatMap fun line => Text.splitLines (shape line)

theorem as_is_by_line : ByLine id := by
  intro s
  have alone : ∀ line ∈ Text.splitLines s, Text.splitLines (id line) = [line] :=
    fun line among => Text.split_lines_single (Text.feed_not_in_line among)
  rw [List.flatMap_congr alone, List.flatMap_singleton', id]

theorem unified_by_line : ByLine Text.unifyLineEnds := by
  intro s
  rw [Text.split_lines_unified]
  refine List.flatMap_congr fun line among => ?_
  rw [Text.split_lines_unified, Text.split_lines_single (Text.feed_not_in_line among),
    List.flatMap_singleton]

/-- What the lines of an output give, each as a report of its own. -/
def LinesGive (target : Target) (shape : List Char → List Char) (octets : List UInt8)
    (pieces : List (List Diagnostic)) : Prop :=
  (lineTexts octets).map (fun line => diagnostics target (String.ofList (shape line))) =
    pieces.map .ok

theorem lines_give_of_read {shape : List Char → List Char} (byLine : ByLine shape)
    (read : diagnostics target (String.ofList (shape (decodeReplacing octets).toList)) = .ok found) :
    ∃ pieces, LinesGive target shape octets pieces ∧ found = pieces.flatten := by
  rw [diagnostics, String.toList_ofList, byLine, split_lines_decoded, List.flatMap_def] at read
  obtain ⟨pieces, each, joined⟩ := parts_of_read read
  refine ⟨pieces, ?_, joined⟩
  rw [LinesGive, ← each, List.map_map]
  refine List.map_congr_left fun line _ => ?_
  rw [diagnostics, String.toList_ofList, Function.comp_apply]

/-- Two outputs give the same on every line but one. -/
def AgreeBut (target : Target) (shape : List Char → List Char) (i : Nat)
    (octets octets' : List UInt8) (found found' : List Diagnostic) : Prop :=
  ∃ pieces pieces', LinesGive target shape octets pieces ∧ LinesGive target shape octets' pieces' ∧
    found = pieces.flatten ∧ found' = pieces'.flatten ∧ AlikeBut i pieces pieces'

theorem agree_but_of_alike {shape : List Char → List Char} (byLine : ByLine shape) {i : Nat}
    (alike : AlikeBut i (octets.splitOn feed) (octets'.splitOn feed))
    (read : diagnostics target (String.ofList (shape (decodeReplacing octets).toList)) = .ok found)
    (read' : diagnostics target (String.ofList (shape (decodeReplacing octets').toList)) =
      .ok found') :
    AgreeBut target shape i octets octets' found found' := by
  obtain ⟨pieces, gives, joined⟩ := lines_give_of_read byLine read
  obtain ⟨pieces', gives', joined'⟩ := lines_give_of_read byLine read'
  refine ⟨pieces, pieces', gives, gives', joined, joined', ?_⟩
  have given := (line_texts_alike alike).map
    fun line => diagnostics target (String.ofList (shape line))
  rw [LinesGive] at gives gives'
  rw [gives, gives'] at given
  exact given.of_map fun _ _ => Except.ok.inj

/-- Octets that form no characters stay on their line. A line feed among octets cuts their text where
it stands, whatever is in front of it. So if two outputs differ in the octets of one line only and both
can be read, they are read line by line, and each of the other lines gives the same in both; and that
holds of outputs whose line ends are as they are as well as of those whose line ends are unified. -/
theorem undecodable_stays_on_line (target : Target) :
    (∀ a b : List UInt8,
      decodeReplacing (a ++ feed :: b) = decodeReplacing a ++ "\n" ++ decodeReplacing b) ∧
    ∀ (i : Nat) (octets octets' : List UInt8),
      AlikeBut i (octets.splitOn feed) (octets'.splitOn feed) →
      (∀ found found', diagnostics target (decodeReplacing octets) = .ok found →
        diagnostics target (decodeReplacing octets') = .ok found' →
        AgreeBut target id i octets octets' found found') ∧
      ∀ found found', diagnostics target (Command.textOf octets) = .ok found →
        diagnostics target (Command.textOf octets') = .ok found' →
        AgreeBut target Text.unifyLineEnds i octets octets' found found' := by
  refine ⟨decode_replacing_feed, fun i octets octets' alike => ⟨?_, ?_⟩⟩
  · intro found found' read read'
    rw [← String.ofList_toList (s := decodeReplacing octets)] at read
    rw [← String.ofList_toList (s := decodeReplacing octets')] at read'
    exact agree_but_of_alike as_is_by_line alike read read'
  · intro found found' read read'
    exact agree_but_of_alike unified_by_line alike read read'

/-- An output of three lines; the second is given by its octets. -/
def outputAround (line : List UInt8) : List UInt8 :=
  encode "a.yml:2: [E1] tabs\r\n" ++ line ++ encode "\nb.yml:7: [E301] names"

/-- The findings of the first and the third line, and in between those of the second. -/
def findingsAround (own : List Diagnostic) : List Diagnostic :=
  ⟨.warning, "tabs", "/work/a.yml", ⟨⟨1, 0⟩, ⟨1, 1⟩⟩, some "E1"⟩ ::
    (own ++ [⟨.warning, "names", "/work/b.yml", ⟨⟨6, 0⟩, ⟨6, 1⟩⟩, some "E301"⟩])

/-- A finding whose message is an octet that begins no character. -/
def findingOfOctet : List UInt8 := encode "c.yml:4: [E5] " ++ [0xff]

theorem split_output_around {line : List UInt8} (single : feed ∉ line) :
    (outputAround line).splitOn feed =
      [encode "a.yml:2: [E1] tabs\r"] ++ line :: [encode "b.yml:7: [E301] names"] := by
  have first : encode "a.yml:2: [E1] tabs\r\n" = encode "a.yml:2: [E1] tabs\r" ++ [feed] := by
    decide +kernel
  have last : encode "\nb.yml:7: [E301] names" = feed :: encode "b.yml:7: [E301] names" := by
    decide +kernel
  rw [outputAround, first, last, List.append_assoc, List.append_assoc, List.singleton_append,
    List.splitOn_append_cons_self_of_not_mem (by decide +kernel),
    List.splitOn_append_cons_self_of_not_mem single,
    List.splitOn_eq_singleton (by decide +kernel), List.singleton_append]

/-- A character that breaks off in the second line, or a finding there whose message cannot be decoded,
leaves the findings around it as they are. -/
theorem broken_character_isolated :
    AlikeBut 1 ((outputAround [0xe2, 0x82]).splitOn feed)
        ((outputAround findingOfOctet).splitOn feed) ∧
      diagnostics ⟨.ofText "/work/site.yml", .ofText "/work"⟩
          (decodeReplacing (outputAround [0xe2, 0x82])) = .ok (findingsAround []) ∧
      diagnostics ⟨.ofText "/work/site.yml", .ofText "/work"⟩
          (decodeReplacing (outputAround findingOfOctet)) =
        .ok (findingsAround
          [⟨.warning, "\uFFFD", "/work/c.yml", ⟨⟨3, 0⟩, ⟨3, 1⟩⟩, some "E5"⟩]) ∧
      AgreeBut ⟨.ofText "/work/site.yml", .ofText "/work"⟩ id 1 (outputAround [0xe2, 0x82])
        (outputAround findingOfOctet) (findingsAround [])
        (findingsAround [⟨.warning, "\uFFFD", "/work/c.yml", ⟨⟨3, 0⟩, ⟨3, 1⟩⟩, some "E5"⟩]) := by
  have alike : AlikeBut 1 ((outputAround [0xe2, 0x82]).splitOn feed)
      ((outputAround findingOfOctet).splitOn feed) := by
    rw [split_output_around (by decide), split_output_around (by decide +kernel)]
    exact .middle [encode "a.yml:2: [E1] tabs\r"] _ _ _
  have read : diagnostics ⟨.ofText "/work/site.yml", .ofText "/work"⟩
      (decodeReplacing (outputAround [0xe2, 0x82])) = .ok (findingsAround []) :=
    Outcome.ok_of_to_option (by decide +kernel)
  have read' : diagnostics ⟨.ofText "/work/site.yml", .ofText "/work"⟩
      (decodeReplacing (outputAround findingOfOctet)) =
      .ok (findingsAround [⟨.warning, "\uFFFD", "/work/c.yml", ⟨⟨3, 0⟩, ⟨3, 1⟩⟩, some "E5"⟩]) :=
    Outcome.ok_of_to_option (by decide +kernel)
  have isolated := undecodable_stays_on_line ⟨.ofText "/work/site.yml", .ofText "/work"⟩
  exact ⟨alike, read, read', (isolated.2 1 _ _ alike).1 _ _ read read'⟩

end Report

end PlaybookLint
