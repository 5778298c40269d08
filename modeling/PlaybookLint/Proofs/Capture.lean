import PlaybookLint.Proofs.Invocation
import PlaybookLint.Proofs.Readability

/-!
Outputs that were captured in part. The output of a program that was given up keeps its line ends, and
that of one that ended has them unified. Read as reports, the two differ only by carriage returns that
stand inside lines: a program that ended is read as if every one of them had ended a line, and the
other as if none had.
-/

namespace PlaybookLint

namespace Text

/-! ### Carriage returns inside lines -/

/-- What stands behind the last carriage return of a line. -/
def behindReturn (line : List Char) : List Char :=
  (line.splitOn '\r').getLast (List.splitOn_ne_nil '\r' line)

/-- Unifying line ends cuts every line at its carriage returns. -/
theorem split_lines_unified (s : List Char) :
    splitLines (unifyLineEnds s) = (splitLines s).flatMap (List.splitOn '\r') := by
  fun_induction unifyLineEnds s with
  | case1 => rfl
  | case2 rest ih =>
      rw [split_lines_return_feed, split_lines_feed, ih]
      rfl
  | case3 rest alone ih =>
      have inside : ('\r' : Char) = '\r' → rest.head? ≠ some '\n' := by
        intro _ feed
        obtain ⟨later, rfl⟩ := List.head?_eq_some_iff.mp feed
        exact alone later rfl
      rw [split_lines_feed, ih, split_lines_inside (by decide) inside]
      obtain ⟨first, others, lines⟩ := List.exists_cons_of_ne_nil (split_lines_ne_nil rest)
      rw [lines, prependToFirst, List.flatMap_cons, List.flatMap_cons,
        List.splitOn_cons_eq_if_modifyHead]
      rfl
  | case4 c rest noReturnFeed noReturn ih =>
      by_cases feed : c = '\n'
      · rw [feed, split_lines_feed, split_lines_feed, ih]
        rfl
      have bare : c ≠ '\r' := fun same => noReturn same
      rw [split_lines_inside feed fun same => absurd same bare,
        split_lines_inside feed fun same => absurd same bare, ih]
      obtain ⟨first, others, lines⟩ := List.exists_cons_of_ne_nil (split_lines_ne_nil rest)
      obtain ⟨piece, pieces, cut⟩ := List.exists_cons_of_ne_nil (List.splitOn_ne_nil '\r' first)
      have other : (c == '\r') = false := beq_eq_false_iff_ne.mpr bare
      rw [lines, prependToFirst, List.flatMap_cons, List.flatMap_cons,
        List.splitOn_cons_eq_if_modifyHead, other, cut]
      rfl

/-- What holds of lists without a separator, and of a list if it holds of what stands behind the first
separator, holds of every list. -/
theorem cut_induction {α : Type} (x : α) {P : List α → Prop} (single : ∀ s, x ∉ s → P s)
    (cut : ∀ first rest, x ∉ first → P rest → P (first ++ x :: rest)) (s : List α) : P s := by
  induction size : s.length using Nat.strongRecOn generalizing s with
  | ind n ih =>
      by_cases among : x ∈ s
      · obtain ⟨first, rest, rfl, before⟩ := List.eq_append_cons_of_mem among
        refine cut first rest before (ih rest.length ?_ rest rfl)
        rw [← size, List.length_append, List.length_cons]
        omega
      · exact single s among

theorem pieces_of_single {s : List Char} (absent : '\r' ∉ s) : s.splitOn '\r' = [s] :=
  List.splitOn_eq_singleton absent

theorem pieces_of_cut {first : List Char} (before : '\r' ∉ first) (rest : List Char) :
    (first ++ '\r' :: rest).splitOn '\r' = first :: rest.splitOn '\r' :=
  List.splitOn_append_cons_self_of_not_mem before rest

/-- The pieces of a line are those that end at a carriage return, and what stands behind them. -/
theorem pieces_eq (line : List Char) :
    line.splitOn '\r' = (line.splitOn '\r').dropLast ++ [behindReturn line] :=
  (List.dropLast_append_getLast _).symm

theorem return_not_in_piece {s piece : List Char} (among : piece ∈ s.splitOn '\r') :
    '\r' ∉ piece := by
  induction s using cut_induction '\r' with
  | single s absent =>
      rw [pieces_of_single absent, List.mem_singleton] at among
      rw [among]
      exact absent
  | cut first rest before ih =>
      rw [pieces_of_cut before, List.mem_cons] at among
      rcases among with rfl | later
      · exact before
      · exact ih later

theorem return_not_behind (line : List Char) : '\r' ∉ behindReturn line :=
  return_not_in_piece (List.getLast_mem _)

theorem behind_return_suffix (line : List Char) : behindReturn line <:+ line := by
  induction line using cut_induction '\r' with
  | single line absent =>
      simp only [behindReturn, pieces_of_single absent, List.getLast_singleton, List.suffix_rfl]
  | cut first rest before ih =>
      have same : behindReturn (first ++ '\r' :: rest) = behindReturn rest := by
        simp only [behindReturn, pieces_of_cut before, List.getLast_cons (List.splitOn_ne_nil _ rest)]
      rw [same]
      exact ih.trans ((List.suffix_cons _ rest).trans (List.suffix_append first _))

/-- Behind a piece that ends at a carriage return, the line goes on with it. -/
theorem return_behind_piece {line piece : List Char}
    (among : piece ∈ (line.splitOn '\r').dropLast) :
    ∃ before behind, line = before ++ (piece ++ behind) ∧ '\r' ∈ behind := by
  induction line using cut_induction '\r' with
  | single line absent =>
      rw [pieces_of_single absent] at among
      cases among
  | cut first rest before ih =>
      rw [pieces_of_cut before, List.dropLast_cons_of_ne_nil (List.splitOn_ne_nil _ rest),
        List.mem_cons] at among
      rcases among with rfl | later
      · exact ⟨[], '\r' :: rest, rfl, List.mem_cons_self⟩
      · obtain ⟨before', behind, rfl, held⟩ := ih later
        refine ⟨first ++ '\r' :: before', behind, ?_, held⟩
        rw [List.append_assoc, List.cons_append]

theorem feed_not_in_piece {line piece : List Char} (single : '\n' ∉ line)
    (among : piece ∈ line.splitOn '\r') : '\n' ∉ piece := by
  rw [pieces_eq, List.mem_append, List.mem_singleton] at among
  rcases among with front | rfl
  · obtain ⟨before, behind, rfl, _⟩ := return_behind_piece front
    simp only [List.mem_append, not_or] at single
    exact single.2.1
  · exact fun feed => single ((behind_return_suffix line).subset feed)

end Text

namespace Finding

/-! ### Readings inside readings -/

theorem Tail.longer {s number code message : List Char} (tail : Tail s number code message)
    (behind : List Char) : Tail (s ++ behind) number code (message ++ behind) := by
  obtain ⟨filled, decimal, coded, bare, before, after, blank, blank', rfl⟩ := tail
  refine ⟨filled, decimal, coded, bare, before, after, blank, blank', ?_⟩
  simp only [List.cons_append, List.append_assoc]

/-- A part of a line that can be read makes the line readable; what stands behind the part goes into the
message. -/
theorem Reads.around {part path number code message : List Char}
    (reads : Reads part path number code message) (before behind : List Char) :
    Reads (before ++ (part ++ behind)) (before ++ path) number code (message ++ behind) := by
  obtain ⟨filled, s, rfl, tail⟩ := reads
  refine ⟨List.append_ne_nil_of_right_ne_nil before filled, s ++ behind, ?_, tail.longer behind⟩
  simp only [List.append_assoc]

theorem Tail.message_unique {s number code message number' code' message' : List Char}
    (single : '\n' ∉ s) (tail : Tail s number code message)
    (tail' : Tail s number' code' message') : message = message' := by
  have read := (after_path_eq_some_iff single ⟨[], number, code, message, []⟩).mpr ⟨rfl, rfl, tail⟩
  have read' :=
    (after_path_eq_some_iff single ⟨[], number', code', message', []⟩).mpr ⟨rfl, rfl, tail'⟩
  cases read.symm.trans read'
  rfl

theorem Tail.message_suffix {s number code message : List Char}
    (tail : Tail s number code message) : message <:+ s := by
  obtain ⟨_, _, _, _, before, after, _, _, rfl⟩ := tail
  refine ⟨':' :: (number ++ ':' :: before :: '[' :: (code ++ [']', after])), ?_⟩
  simp only [List.cons_append, List.append_assoc, List.nil_append]

/-- The message of a line ends with what stands behind any part that can be read. -/
theorem message_ends_behind {part behind before path number code message : List Char}
    {path' number' code' message' : List Char} (single : '\n' ∉ before ++ (part ++ behind))
    (reads : Reads part path number code message)
    (shortest : ReadsShortest (before ++ (part ++ behind)) path' number' code' message') :
    behind <:+ message' := by
  have whole := reads.around before behind
  obtain ⟨⟨_, s, written, tail⟩, least⟩ := shortest
  have short := least _ _ _ _ whole
  obtain ⟨_, s', written', tail'⟩ := whole
  have single' : '\n' ∉ s := fun feed => single (written ▸ List.mem_append_right path' feed)
  have cut : path' ++ s = (before ++ path) ++ s' := written.symm.trans written'
  obtain ⟨u, inside⟩ : ∃ u, s = u ++ s' := by
    rcases List.append_eq_append_iff.mp cut with ⟨u, _, rest⟩ | ⟨u, long, rest⟩
    · exact ⟨u, rest⟩
    · rw [long, List.length_append] at short
      have none : u = [] := List.length_eq_zero_iff.mp (by omega)
      exact ⟨[], by rw [rest, none]; rfl⟩
  subst inside
  by_cases begun : u = []
  · subst begun
    rw [tail.message_unique single' tail']
    exact List.suffix_append message behind
  · -- The shortest reading begins inside the path of the other, so it ends there but for its message.
    obtain ⟨q, k, rfl, stub⟩ := tail.ends_before tail' begun
    have longer : Tail ((q ++ k) ++ s') number' code' (k ++ s') := by
      rw [List.append_assoc]
      exact stub.longer (k ++ s')
    rw [tail.message_unique single' longer]
    exact (List.suffix_append message behind).trans
      (tail'.message_suffix.trans (List.suffix_append k s'))

end Finding

namespace Report

open Finding

variable {target : Target} {line : List Char}

/-! ### Lines cut at their carriage returns -/

theorem LineGives.unique {found found' : List Diagnostic} (single : '\n' ∉ line)
    (gives : LineGives target line found) (gives' : LineGives target line found') :
    found = found' := by
  cases gives with
  | nothing unread =>
      cases gives' with
      | nothing _ => rfl
      | finding reads _ => exact absurd reads.1 (unread _ _ _ _)
  | finding reads _ =>
      cases gives' with
      | nothing unread => exact absurd reads.1 (unread _ _ _ _)
      | finding reads' _ =>
          obtain ⟨rfl, rfl, rfl, rfl⟩ := reads_shortest_unique single reads reads'
          rfl

theorem LineGives.goes_on {found : List Diagnostic} (single : '\n' ∉ line)
    (gives : LineGives target line found) (rest : List (List Char)) :
    diagnosticsOfLines target (line :: rest) =
      (diagnosticsOfLines target rest).map (found ++ ·) := by
  rcases line_has_say target single with ⟨found', gives', goesOn⟩ | ⟨count, overlong, _⟩
  · rw [goesOn, gives.unique single gives']
  · exact absurd overlong (gives.not_overlong single count)

theorem return_not_in_excerpt {found : List Diagnostic} (gives : LineGives target line found)
    (absent : '\r' ∉ line) {d : Diagnostic} (among : d ∈ found) : '\r' ∉ d.excerpt.toList := by
  cases gives with
  | nothing _ => cases among
  | finding reads _ =>
      rw [List.mem_singleton.mp among, diagnosticOf, String.toList_ofList]
      obtain ⟨⟨_, s, written, tail⟩, _⟩ := reads
      intro held
      apply absent
      rw [written]
      exact List.mem_append_right _ (tail.message_suffix.subset held)

/-- None of the pieces of a line that end at a carriage return is a finding. -/
def EndsUnread (line : List Char) : Prop :=
  ∀ piece ∈ (line.splitOn '\r').dropLast, ∀ path number code message,
    ¬Reads piece path number code message

/-- A line of which a piece is a finding, though not the last, gives a message with a carriage return. -/
theorem ends_unread_of_clean {found : List Diagnostic} (single : '\n' ∉ line)
    (gives : LineGives target line found) (clean : ∀ d ∈ found, '\r' ∉ d.excerpt.toList) :
    EndsUnread line := by
  intro piece among path number code message reads
  obtain ⟨before, behind, rfl, held⟩ := Text.return_behind_piece among
  cases gives with
  | nothing unread => exact unread _ _ _ _ (reads.around before behind)
  | finding shortest _ =>
      apply clean _ (List.mem_singleton_self _)
      rw [diagnosticOf, String.toList_ofList]
      exact (message_ends_behind single reads shortest).subset held

theorem unread_go_on {lines : List (List Char)} (single : ∀ line ∈ lines, '\n' ∉ line)
    (unread : ∀ line ∈ lines, ∀ path number code message, ¬Reads line path number code message)
    (rest : List (List Char)) :
    diagnosticsOfLines target (lines ++ rest) = diagnosticsOfLines target rest := by
  induction lines with
  | nil => rfl
  | cons line lines ih =>
      have later := ih (fun other among => single other (List.mem_cons_of_mem line among))
        fun other among => unread other (List.mem_cons_of_mem line among)
      rw [List.cons_append, LineGives.goes_on (single line List.mem_cons_self)
        (.nothing (unread line List.mem_cons_self)), later]
      cases diagnosticsOfLines target rest <;> rfl

/-- Where the other pieces are no findings, a line that is cut is read as its last piece. -/
theorem cut_read_as_last (single : '\n' ∉ line) (unread : EndsUnread line)
    (rest : List (List Char)) :
    diagnosticsOfLines target (line.splitOn '\r' ++ rest) =
      diagnosticsOfLines target (Text.behindReturn line :: rest) := by
  have inPieces (piece : List Char) (among : piece ∈ (line.splitOn '\r').dropLast) : '\n' ∉ piece :=
    Text.feed_not_in_piece single (List.dropLast_subset _ among)
  rw [Text.pieces_eq, List.append_assoc, unread_go_on inPieces unread, List.singleton_append]

theorem feed_not_behind (single : '\n' ∉ line) : '\n' ∉ Text.behindReturn line :=
  fun feed => single ((Text.behind_return_suffix line).subset feed)

/-- What was read from some lines is what the first gives, and what was read from the others. -/
theorem say_of_read {rest : List (List Char)} {found : List Diagnostic} (single : '\n' ∉ line)
    (read : diagnosticsOfLines target (line :: rest) = .ok found) :
    ∃ first others, LineGives target line first ∧
      diagnosticsOfLines target rest = .ok others ∧ found = first ++ others := by
  rcases line_has_say target single with ⟨first, gives, goesOn⟩ | ⟨count, _, spoiled⟩
  · rw [goesOn] at read
    obtain ⟨others, later, same⟩ := Outcome.map_ok read
    exact ⟨first, others, gives, later, same.symm⟩
  · cases (spoiled rest).symm.trans read

theorem behind_return_gives_less {found found' : List Diagnostic}
    (gives : LineGives target line found)
    (gives' : LineGives target (Text.behindReturn line) found') : found'.length ≤ found.length := by
  cases gives' with
  | nothing _ => exact Nat.zero_le _
  | finding reads _ =>
      obtain ⟨before, whole⟩ := Text.behind_return_suffix line
      have readable := reads.1.around before []
      rw [List.append_nil, whole] at readable
      cases gives with
      | nothing unread => exact absurd readable (unread _ _ _ _)
      | finding _ _ => exact Nat.le_refl _

/-- Lines that all give what stands behind their last carriage returns are read as if they were cut. -/
theorem cut_alike {lines : List (List Char)} (single : ∀ line ∈ lines, '\n' ∉ line)
    (each : ∀ line ∈ lines, ∃ found, LineGives target line found ∧
      LineGives target (Text.behindReturn line) found) :
    diagnosticsOfLines target (lines.flatMap (List.splitOn '\r')) =
      diagnosticsOfLines target lines := by
  induction lines with
  | nil => rfl
  | cons line lines ih =>
      have here := single line List.mem_cons_self
      have later := ih (fun other among => single other (List.mem_cons_of_mem line among))
        fun other among => each other (List.mem_cons_of_mem line among)
      obtain ⟨found, gives, gives'⟩ := each line List.mem_cons_self
      have unread : EndsUnread line := ends_unread_of_clean here gives fun d among =>
        return_not_in_excerpt gives' (Text.return_not_behind line) among
      rw [List.flatMap_cons, cut_read_as_last here unread, gives'.goes_on (feed_not_behind here), later,
        gives.goes_on here]

theorem excerpts_clean {lines : List (List Char)} (single : ∀ line ∈ lines, '\n' ∉ line)
    (absent : ∀ line ∈ lines, '\r' ∉ line) {found : List Diagnostic}
    (read : diagnosticsOfLines target lines = .ok found) :
    ∀ d ∈ found, '\r' ∉ d.excerpt.toList := by
  induction lines generalizing found with
  | nil =>
      cases read
      exact fun _ among => absurd among List.not_mem_nil
  | cons line lines ih =>
      obtain ⟨first, others, gives, later, rfl⟩ := say_of_read (single line List.mem_cons_self) read
      have behind := ih (fun other among => single other (List.mem_cons_of_mem line among))
        (fun other among => absent other (List.mem_cons_of_mem line among)) later
      intro d among
      rcases List.mem_append.mp among with inFirst | inOthers
      · exact return_not_in_excerpt gives (absent line List.mem_cons_self) inFirst
      · exact behind d inOthers

/-- Lines whose messages have no carriage returns give no less than what they give when they are cut, and
give the same only if each gives what stands behind its last carriage return. -/
theorem cut_gives_less {lines : List (List Char)} (single : ∀ line ∈ lines, '\n' ∉ line)
    {found found' : List Diagnostic} (read : diagnosticsOfLines target lines = .ok found)
    (read' : diagnosticsOfLines target (lines.flatMap (List.splitOn '\r')) = .ok found')
    (clean : ∀ d ∈ found, '\r' ∉ d.excerpt.toList) :
    found'.length ≤ found.length ∧ (found = found' → ∀ line ∈ lines, ∃ found,
      LineGives target line found ∧ LineGives target (Text.behindReturn line) found) := by
  induction lines generalizing found found' with
  | nil =>
      cases read
      cases read'
      exact ⟨Nat.le_refl _, fun _ _ among => absurd among List.not_mem_nil⟩
  | cons line lines ih =>
      have here := single line List.mem_cons_self
      obtain ⟨first, others, gives, later, rfl⟩ := say_of_read here read
      have unread : EndsUnread line := ends_unread_of_clean here gives fun d among =>
        clean d (List.mem_append_left others among)
      rw [List.flatMap_cons, cut_read_as_last here unread] at read'
      obtain ⟨first', others', gives', later', rfl⟩ := say_of_read (feed_not_behind here) read'
      obtain ⟨fewer, alike⟩ := ih (fun other among => single other (List.mem_cons_of_mem line among))
        later later' fun d among => clean d (List.mem_append_right first among)
      have less : first'.length ≤ first.length := behind_return_gives_less gives gives'
      refine ⟨by simp only [List.length_append]; omega, ?_⟩
      intro same other among
      -- Neither part can make up for the other, so the first line gives the same either way.
      have lengths := congrArg List.length same
      simp only [List.length_append] at lengths
      obtain ⟨rfl, rfl⟩ := List.append_inj same (by omega)
      rcases List.mem_cons.mp among with rfl | behind
      · exact ⟨first, gives, gives'⟩
      · exact alike rfl other behind

/-- A report and the same report with unified line ends are read alike exactly if both are spoiled by
numbers of equally many digits, or if every line gives the same as what stands behind its last
carriage return. -/
theorem unified_alike_iff (target : Target) (s : List Char) :
    diagnostics target (String.ofList s) =
        diagnostics target (String.ofList (Text.unifyLineEnds s)) ↔
      (∃ count, FirstOverlong (Text.splitLines s) count ∧
        FirstOverlong ((Text.splitLines s).flatMap (List.splitOn '\r')) count) ∨
      ∀ line ∈ Text.splitLines s, ∃ found, LineGives target line found ∧
        LineGives target (Text.behindReturn line) found := by
  have single : ∀ line ∈ Text.splitLines s, '\n' ∉ line := fun _ => Text.feed_not_in_line
  have single' : ∀ piece ∈ (Text.splitLines s).flatMap (List.splitOn '\r'), '\n' ∉ piece := by
    rw [← Text.split_lines_unified]
    exact fun _ => Text.feed_not_in_line
  simp only [diagnostics, String.toList_ofList, Text.split_lines_unified]
  constructor
  · intro alike
    cases read : diagnosticsOfLines target (Text.splitLines s) with
    | error refusal =>
        have first := (lines_error_iff target single refusal).mp read
        have first' := (lines_error_iff target single' refusal).mp (alike.symm.trans read)
        exact .inl ⟨refusal.digits, first, first'⟩
    | ok found =>
        have read' := alike.symm.trans read
        have clean : ∀ d ∈ found, '\r' ∉ d.excerpt.toList := by
          refine excerpts_clean single' (fun piece among => ?_) read'
          obtain ⟨line, _, inLine⟩ := List.mem_flatMap.mp among
          exact Text.return_not_in_piece inLine
        exact .inr ((cut_gives_less single read read' clean).2 rfl)
  · rintro (⟨count, first, first'⟩ | each)
    · rw [(lines_error_iff target single ⟨count⟩).mpr first,
        (lines_error_iff target single' ⟨count⟩).mpr first']
    · exact (cut_alike single each).symm

/-- Without carriage returns inside its lines, a report is read as with unified line ends. -/
theorem unified_alike_of_clean (target : Target) {s : List Char}
    (clean : ∀ line ∈ Text.splitLines s, '\r' ∉ line) :
    diagnostics target (String.ofList s) =
      diagnostics target (String.ofList (Text.unifyLineEnds s)) := by
  have whole : (Text.splitLines s).flatMap (List.splitOn '\r') = Text.splitLines s :=
    calc (Text.splitLines s).flatMap (List.splitOn '\r')
        = (Text.splitLines s).flatMap ([·]) :=
          List.flatMap_congr fun line among => Text.pieces_of_single (clean line among)
      _ = Text.splitLines s := List.flatMap_singleton' _
  rw [diagnostics, diagnostics, String.toList_ofList, String.toList_ofList,
    Text.split_lines_unified, whole]

end Report

namespace Command

/-- What a program wrote is read as a report alike whether the program ended or was given up after it
wrote that, exactly if the carriage returns inside lines make no difference: either every line gives
the same as what stands behind its last carriage return, or the report is spoiled both ways by numbers
of equally many digits. So it is where carriage returns stand in front of line feeds only. Of a program
that is given up when nobody can write any more, nothing is kept that could be read. -/
theorem partial_report_alike_iff (target : Target) (executable : String) (command : List String)
    (directory : Path) (seconds : Binary64) {p p' : Performance} {limit limit' : Nat} {finish : Finish}
    (ends : EndsBy p limit finish) (never : ∀ finish, ¬EndsBy p' limit' finish)
    (same : p'.written .out (· < limit') = p.all .out) :
    ∃ whole part,
      report executable (await (linterOptions directory seconds) command p (some limit)) = .ok whole ∧
      report executable (await (linterOptions directory seconds) command p' (some limit')) =
        .ok part ∧
      (¬Closes p' limit' →
        (Report.diagnostics target part.stdout = Report.diagnostics target whole.stdout ↔
          (∃ count, Report.FirstOverlong (Text.splitLines part.stdout.toList) count ∧
            Report.FirstOverlong
              ((Text.splitLines part.stdout.toList).flatMap (List.splitOn '\r')) count) ∨
          ∀ line ∈ Text.splitLines part.stdout.toList, ∃ found,
            Report.LineGives target line found ∧
              Report.LineGives target (Text.behindReturn line) found) ∧
        ((∀ line ∈ Text.splitLines part.stdout.toList, '\r' ∉ line) →
          Report.diagnostics target part.stdout = Report.diagnostics target whole.stdout)) ∧
      (Closes p' limit' → part.stdout = "" ∧ part.stderr = "") := by
  obtain ⟨reason, _, told⟩ := report_of_late executable command directory seconds never
  refine ⟨_, _, report_of_ended ends, told, fun open_ => ?_, fun closed =>
    ⟨kept_of_closed closed .out, kept_of_closed closed .err⟩⟩
  simp only [kept_of_open open_, same]
  have alike := Report.unified_alike_iff target (Text.Utf8.decodeReplacing (p.all .out)).toList
  have clean := Report.unified_alike_of_clean target
    (s := (Text.Utf8.decodeReplacing (p.all .out)).toList)
  rw [String.ofList_toList] at alike clean
  exact ⟨alike, clean⟩

/-- A program that writes something at once and ends at a time. -/
def writer (text : String) (finish : Nat) : Performance where
  writings := [⟨1, .out, Text.Utf8.encode text⟩]
  finish := some ⟨finish, 0⟩
  silence := some finish

theorem writer_ends (text : String) : EndsBy (writer text 2) 1000 ⟨2, 0⟩ :=
  ⟨⟨rfl, by decide⟩, 2, rfl, by decide⟩

theorem writer_late (text : String) (finish : Finish) : ¬EndsBy (writer text 5000) 1000 finish := by
  rintro ⟨⟨ended, early⟩, _⟩
  cases ended
  exact absurd early (by decide)

theorem writer_open (text : String) : ¬Closes (writer text 5000) 1000 := by
  rintro ⟨_, silent, early⟩
  cases silent
  exact absurd early (by decide)

/-- What comes of a program that is waited for a second. -/
def afterSecond (p : Performance) : Except Fault ToolOutput :=
  report "lint" (await (linterOptions (.ofText "/work") (.ofRatio false 1 1)) ["/bin/lint"] p
    (some 1000))

/-- A finding with a carriage return in front of its line feed is read alike, whether or not the program
that wrote it was given up. -/
theorem given_up_read_alike :
    EndsBy (writer "b.yml:2: [E301] names\r\n" 2) 1000 ⟨2, 0⟩ ∧
      (∀ finish, ¬EndsBy (writer "b.yml:2: [E301] names\r\n" 5000) 1000 finish) ∧
      (writer "b.yml:2: [E301] names\r\n" 5000).written .out (· < 1000) =
        (writer "b.yml:2: [E301] names\r\n" 2).all .out ∧
      afterSecond (writer "b.yml:2: [E301] names\r\n" 2) =
        .ok ⟨"b.yml:2: [E301] names\n", "", some 0, none⟩ ∧
      afterSecond (writer "b.yml:2: [E301] names\r\n" 5000) =
        .ok ⟨"b.yml:2: [E301] names\r\n", "", none,
          some "Command '/bin/lint' timed out after 1.0s"⟩ ∧
      Report.diagnostics ⟨.ofText "/work/site.yml", .ofText "/work"⟩ "b.yml:2: [E301] names\r\n" =
        Report.diagnostics ⟨.ofText "/work/site.yml", .ofText "/work"⟩ "b.yml:2: [E301] names\n" := by
  have ends := writer_ends "b.yml:2: [E301] names\r\n"
  have never := writer_late "b.yml:2: [E301] names\r\n"
  have same : (writer "b.yml:2: [E301] names\r\n" 5000).written .out (· < 1000) =
      (writer "b.yml:2: [E301] names\r\n" 2).all .out := rfl
  have ended : afterSecond (writer "b.yml:2: [E301] names\r\n" 2) =
      .ok ⟨"b.yml:2: [E301] names\n", "", some 0, none⟩ :=
    Outcome.ok_of_to_option (by decide +kernel)
  have late : afterSecond (writer "b.yml:2: [E301] names\r\n" 5000) =
      .ok ⟨"b.yml:2: [E301] names\r\n", "", none,
        some "Command '/bin/lint' timed out after 1.0s"⟩ :=
    Outcome.ok_of_to_option (by decide +kernel)
  obtain ⟨whole, part, told, told', kept, _⟩ :=
    partial_report_alike_iff ⟨.ofText "/work/site.yml", .ofText "/work"⟩ "lint" ["/bin/lint"]
      (.ofText "/work") (.ofRatio false 1 1) ends never same
  cases told.symm.trans ended
  cases told'.symm.trans late
  exact ⟨ends, never, same, ended, late, (kept (writer_open _)).2 (by decide +kernel)⟩

/-- Progress that was written in front of a finding, behind it a carriage return, is taken for a part of
the path if the program is given up. -/
theorem progress_read_into_path :
    (writer "10%\rb.yml:2: [E301] names" 5000).written .out (· < 1000) =
        (writer "10%\rb.yml:2: [E301] names" 2).all .out ∧
      afterSecond (writer "10%\rb.yml:2: [E301] names" 2) =
        .ok ⟨"10%\nb.yml:2: [E301] names", "", some 0, none⟩ ∧
      afterSecond (writer "10%\rb.yml:2: [E301] names" 5000) =
        .ok ⟨"10%\rb.yml:2: [E301] names", "", none,
          some "Command '/bin/lint' timed out after 1.0s"⟩ ∧
      Report.diagnostics ⟨.ofText "/work/site.yml", .ofText "/work"⟩ "10%\nb.yml:2: [E301] names" =
        .ok [⟨.warning, "names", "/work/b.yml", ⟨⟨1, 0⟩, ⟨1, 1⟩⟩, some "E301"⟩] ∧
      Report.diagnostics ⟨.ofText "/work/site.yml", .ofText "/work"⟩ "10%\rb.yml:2: [E301] names" =
        .ok [⟨.warning, "names", "/work/10%\rb.yml", ⟨⟨1, 0⟩, ⟨1, 1⟩⟩, some "E301"⟩] :=
  ⟨rfl, Outcome.ok_of_to_option (by decide +kernel), Outcome.ok_of_to_option (by decide +kernel),
    Outcome.ok_of_to_option (by decide +kernel), Outcome.ok_of_to_option (by decide +kernel)⟩

end Command

end PlaybookLint
