import PlaybookLint.Proofs.ReportLine

/-!
Line ends. Where two texts are joined by a line end, the lines of the whole are those of the first
and then those of the second, so a report is read line by line and nothing is carried from one line
to another. Which of the two line ends stands at a place makes no difference, as long as no carriage
return is in front of it.
-/

namespace PlaybookLint

namespace Text

/-! ### Cutting a text into lines -/

theorem split_lines_ne_nil (s : List Char) : splitLines s ≠ [] := by
  fun_cases splitLines s with
  | case1 => exact List.cons_ne_nil _ _
  | case2 rest => exact List.cons_ne_nil _ _
  | case3 rest => exact List.cons_ne_nil _ _
  | case4 c rest =>
      cases splitLines rest with
      | nil => exact List.cons_ne_nil _ _
      | cons line lines => exact List.cons_ne_nil _ _

/-- A character that ends no line stands in front of the first line. -/
theorem split_lines_inside {c : Char} {rest : List Char} (noFeed : c ≠ '\n')
    (noEnd : c = '\r' → rest.head? ≠ some '\n') :
    splitLines (c :: rest) = prependToFirst c (splitLines rest) := by
  rw [splitLines]
  · exact noFeed
  · intro after isReturn follows
    apply noEnd isReturn
    rw [follows]
    rfl

theorem prepend_append {lines : List (List Char)} (filled : lines ≠ []) (c : Char)
    (later : List (List Char)) :
    prependToFirst c (lines ++ later) = prependToFirst c lines ++ later := by
  cases lines with
  | nil => exact absurd rfl filled
  | cons line lines => rfl

theorem last_of_last {c d : Char} {rest : List Char} (last : rest.getLast? = some d) :
    (c :: rest).getLast? = some d := by
  rw [List.getLast?_cons, last]
  rfl

/-- A text `t` that begins with a line end adds the lines behind that line end, unless a carriage
return gets in front of its line feed. -/
theorem split_lines_append {a t b : List Char} (ends : splitLines t = [] :: splitLines b)
    (apart : a.getLast? = some '\r' → t.head? ≠ some '\n') :
    splitLines (a ++ t) = splitLines a ++ splitLines b := by
  fun_induction splitLines a with
  | case1 => exact ends
  | case2 rest ih =>
      have later := ih fun last => apart (last_of_last last)
      rw [List.cons_append, splitLines, later, List.cons_append]
  | case3 rest ih =>
      have later := ih fun last => apart (last_of_last (last_of_last last))
      rw [List.cons_append, List.cons_append, splitLines, later, List.cons_append]
  | case4 c rest noFeed noEnd ih =>
      have later := ih fun last => apart (last_of_last last)
      have stillInside : c = '\r' → (rest ++ t).head? ≠ some '\n' := by
        intro isReturn
        cases rest with
        | nil => exact apart (congrArg some isReturn)
        | cons d rest =>
            intro feed
            exact noEnd rest isReturn (congrArg (· :: rest) (Option.some.inj feed))
      rw [List.cons_append, split_lines_inside noFeed stillInside, later,
        prepend_append (split_lines_ne_nil rest)]

theorem split_lines_feed (b : List Char) : splitLines ('\n' :: b) = [] :: splitLines b := rfl

theorem split_lines_return_feed (b : List Char) :
    splitLines ('\r' :: '\n' :: b) = [] :: splitLines b := rfl

/-- No line has a line feed in it. -/
theorem feed_not_in_line {s line : List Char} (among : line ∈ splitLines s) : '\n' ∉ line := by
  fun_induction splitLines s generalizing line with
  | case1 =>
      rw [List.mem_singleton.mp among]
      exact List.not_mem_nil
  | case2 rest ih =>
      rcases List.mem_cons.mp among with rfl | later
      · exact List.not_mem_nil
      · exact ih later
  | case3 rest ih =>
      rcases List.mem_cons.mp among with rfl | later
      · exact List.not_mem_nil
      · exact ih later
  | case4 c rest noFeed noEnd ih =>
      cases lines : splitLines rest with
      | nil => exact absurd lines (split_lines_ne_nil rest)
      | cons first others =>
          rw [lines] at among ih
          rcases List.mem_cons.mp among with rfl | later
          · rw [List.mem_cons, not_or]
            exact ⟨fun same => noFeed same.symm, ih List.mem_cons_self⟩
          · exact ih (List.mem_cons_of_mem first later)

/-! ### The choice of line ends -/

/-- The second text is the first with a carriage return put in front of some of its line feeds. -/
inductive Respelled : List Char → List Char → Prop
  | nil : Respelled [] []
  | kept (c : Char) {s t : List Char} (later : Respelled s t) : Respelled (c :: s) (c :: t)
  | widened {s t : List Char} (later : Respelled s t) : Respelled ('\n' :: s) ('\r' :: '\n' :: t)

theorem Respelled.behind (a : List Char) {s t : List Char} (later : Respelled s t) :
    Respelled (a ++ s) (a ++ t) := by
  induction a with
  | nil => exact later
  | cons c a ih => exact .kept c ih

/-- Where a text has no carriage returns of its own, its lines are the same however they end. -/
theorem split_lines_respelled {s t : List Char} (respelled : Respelled s t) (plain : '\r' ∉ s) :
    splitLines t = splitLines s := by
  induction respelled with
  | nil => rfl
  | @kept c s t later ih =>
      rw [List.mem_cons, not_or] at plain
      by_cases feed : c = '\n'
      · rw [feed, split_lines_feed, split_lines_feed, ih plain.2]
      · have noReturn : c ≠ '\r' := fun same => plain.1 same.symm
        rw [split_lines_inside feed fun same => absurd same noReturn,
          split_lines_inside feed fun same => absurd same noReturn, ih plain.2]
  | widened later ih =>
      rw [List.mem_cons, not_or] at plain
      rw [split_lines_return_feed, split_lines_feed, ih plain.2]

end Text

namespace Report

/-! ### Reports line by line -/

/-- The diagnostics of some lines, then those of others. The first fault is that of the whole. -/
theorem diagnostics_of_lines_append (target : Target) (first later : List (List Char)) :
    diagnosticsOfLines target (first ++ later) = do
      let found ← diagnosticsOfLines target first
      let others ← diagnosticsOfLines target later
      return found ++ others := by
  induction first with
  | nil =>
      simp only [List.nil_append, diagnosticsOfLines]
      cases diagnosticsOfLines target later <;> rfl
  | cons line rest ih =>
      rw [List.cons_append, diagnosticsOfLines, diagnosticsOfLines, ih]
      cases Finding.read? line with
      | none => rfl
      | some f =>
          simp only
          cases f.diagnostic target line with
          | error refusal => rfl
          | ok d =>
              cases diagnosticsOfLines target rest with
              | error refusal => rfl
              | ok found => cases diagnosticsOfLines target later <;> rfl

/-- Two reports joined by a line end have the diagnostics of both. -/
theorem diagnostics_joined (target : Target) {a ending b : String}
    (ends : ∀ rest, Text.splitLines (ending.toList ++ rest) = [] :: Text.splitLines rest)
    (apart : a.toList.getLast? = some '\r' → (ending.toList ++ b.toList).head? ≠ some '\n') :
    diagnostics target (a ++ ending ++ b) = do
      let found ← diagnostics target a
      let others ← diagnostics target b
      return found ++ others := by
  simp only [diagnostics, String.toList_append, List.append_assoc]
  rw [Text.split_lines_append (ends b.toList) apart, diagnostics_of_lines_append]

/-- The diagnostics of lines are those of every line on its own, one after the other. -/
theorem diagnostics_of_lines_each (target : Target) {lines : List (List Char)}
    (single : ∀ line ∈ lines, '\n' ∉ line) :
    diagnosticsOfLines target lines =
      ((lines.map String.ofList).mapM (diagnostics target)).map List.flatten := by
  induction lines with
  | nil => rfl
  | cons line rest ih =>
      have split := diagnostics_of_lines_append target [line] rest
      rw [List.singleton_append] at split
      rw [split, ← diagnostics_single (single line List.mem_cons_self),
        ih fun other member => single other (List.mem_cons_of_mem line member), List.map_cons,
        List.mapM_cons]
      cases diagnostics target (String.ofList line) with
      | error refusal => rfl
      | ok found =>
          cases (rest.map String.ofList).mapM (diagnostics target) with
          | error refusal => rfl
          | ok others => rfl

/-- A report is read line by line, however its lines end. Joining two reports by a line end joins
their diagnostics, or else the first fault is that of both together; with a mere line feed, the first
must not end in a carriage return, which would belong to the line end. A report in one piece is read
as its lines are, and has the diagnostics of each line on its own, in order. Putting carriage returns
in front of line feeds changes nothing in a report that has none. -/
theorem diagnostics_line_by_line (target : Target) :
    (∀ a b : String, diagnostics target (a ++ "\r\n" ++ b) = do
      let found ← diagnostics target a
      let others ← diagnostics target b
      return found ++ others) ∧
    (∀ a b : String, a.toList.getLast? ≠ some '\r' → diagnostics target (a ++ "\n" ++ b) = do
      let found ← diagnostics target a
      let others ← diagnostics target b
      return found ++ others) ∧
    (∀ s : String,
      diagnostics target s = diagnosticsOfLines target ((Text.lines s).map String.toList)) ∧
    (∀ s : String,
      diagnostics target s = ((Text.lines s).mapM (diagnostics target)).map List.flatten) ∧
    ∀ s t : String, '\r' ∉ s.toList → Text.Respelled s.toList t.toList →
      diagnostics target t = diagnostics target s := by
  refine ⟨?_, ?_, ?_, ?_, ?_⟩
  · intro a b
    have start : ("\r\n".toList ++ b.toList).head? = some '\r' := rfl
    refine diagnostics_joined target Text.split_lines_return_feed fun _ => ?_
    rw [start]
    decide
  · intro a b apart
    exact diagnostics_joined target Text.split_lines_feed fun last => absurd last apart
  · intro s
    have back : (Text.lines s).map String.toList = Text.splitLines s.toList := by
      simp only [Text.lines, List.map_map, Function.comp_def, String.toList_ofList, List.map_id']
    rw [back, diagnostics]
  · intro s
    exact diagnostics_of_lines_each target fun line member => Text.feed_not_in_line member
  · intro s t plain respelled
    rw [diagnostics, diagnostics, Text.split_lines_respelled respelled plain]

/-- A carriage return at the end of the first text would be taken for a part of the line end. -/
example : Text.splitLines ['a', '\r', '\n', 'b'] = [['a'], ['b']] ∧
    Text.splitLines ['a', '\r'] = [['a', '\r']] := by decide

/-- The same finding twice, with either line end, stays twice. -/
theorem repeated_line_twice :
    "b.yml:7: [E301] x".toList.getLast? ≠ some '\r' ∧
      '\r' ∉ "b.yml:7: [E301] x\nb.yml:7: [E301] x".toList ∧
      Text.Respelled "b.yml:7: [E301] x\nb.yml:7: [E301] x".toList
        "b.yml:7: [E301] x\r\nb.yml:7: [E301] x".toList ∧
      diagnostics ⟨.ofText "/work/site.yml", .ofText "/work"⟩
          "b.yml:7: [E301] x\r\nb.yml:7: [E301] x" =
        .ok [⟨.warning, "x", "/work/b.yml", ⟨⟨6, 0⟩, ⟨6, 1⟩⟩, some "E301"⟩,
          ⟨.warning, "x", "/work/b.yml", ⟨⟨6, 0⟩, ⟨6, 1⟩⟩, some "E301"⟩] := by
  obtain ⟨_, joined, _, _, respelled⟩ :=
    diagnostics_line_by_line ⟨.ofText "/work/site.yml", .ofText "/work"⟩
  have apart : "b.yml:7: [E301] x".toList.getLast? ≠ some '\r' := by decide
  have plain : '\r' ∉ "b.yml:7: [E301] x\nb.yml:7: [E301] x".toList := by decide
  have widened : Text.Respelled "b.yml:7: [E301] x\nb.yml:7: [E301] x".toList
      "b.yml:7: [E301] x\r\nb.yml:7: [E301] x".toList :=
    (Text.Respelled.widened (Text.Respelled.nil.behind "b.yml:7: [E301] x".toList)).behind
      "b.yml:7: [E301] x".toList
  have once : diagnostics ⟨.ofText "/work/site.yml", .ofText "/work"⟩ "b.yml:7: [E301] x" =
      .ok [⟨.warning, "x", "/work/b.yml", ⟨⟨6, 0⟩, ⟨6, 1⟩⟩, some "E301"⟩] := by rfl
  refine ⟨apart, plain, widened, ?_⟩
  rw [respelled _ _ plain widened]
  have both := joined "b.yml:7: [E301] x" "b.yml:7: [E301] x" apart
  rw [once] at both
  exact both

end Report

end PlaybookLint
