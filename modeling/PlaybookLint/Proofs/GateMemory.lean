import Mathlib
import PlaybookLint.Gate

/-!
The memory of the gate, told by what was asked before. After any questions it holds the patterns
used last, as many as it has room for, each with what compiling it comes to. So an answer is the
same as with an empty memory, and a malformed pattern is reported exactly when it is not among them.
-/

namespace PlaybookLint.Gate

/-! ### The distinct texts of a history -/

section Recent

variable {α : Type}

theorem exists_last_use {uses : List α} {s : α} (used : s ∈ uses) :
    ∃ before after, uses = before ++ s :: after ∧ s ∉ after := by
  obtain ⟨after, before, cut, absent⟩ := List.eq_append_cons_of_mem (List.mem_reverse.mpr used)
  refine ⟨before.reverse, after.reverse, ?_, fun among => absent (List.mem_reverse.mp among)⟩
  rw [← List.reverse_reverse uses, cut]
  simp only [List.reverse_append, List.reverse_cons, List.append_assoc, List.singleton_append]

variable [DecidableEq α]

/-- A text that is used once more becomes the last of the distinct texts. -/
theorem dedup_concat (uses : List α) (s : α) :
    (uses ++ [s]).dedup = uses.dedup.filter (· != s) ++ [s] := by
  induction uses with
  | nil => rfl
  | cons t uses ih =>
      rw [List.cons_append]
      by_cases again : t ∈ uses
      · rw [List.dedup_cons_of_mem (List.mem_append_left [s] again),
          List.dedup_cons_of_mem again, ih]
      · by_cases same : t = s
        · subst same
          have last : t ∈ uses ++ [t] := List.mem_append_right uses List.mem_cons_self
          rw [List.dedup_cons_of_mem last, List.dedup_cons_of_notMem again, ih,
            List.filter_cons_of_neg (by simp)]
        · have absent : t ∉ uses ++ [s] := by
            simp only [List.mem_append, List.mem_singleton, again, same, or_self, not_false_eq_true]
          rw [List.dedup_cons_of_notMem absent, List.dedup_cons_of_notMem again, ih,
            List.filter_cons_of_pos (by simpa using same), List.cons_append]

/-- Of distinct texts, the same stay in front whether one is left out before or after the rest is
cut off. -/
theorem filter_take_succ {texts : List α} (distinct : texts.Nodup) (s : α) (n : Nat) :
    ((texts.take (n + 1)).filter (· != s)).take n = (texts.filter (· != s)).take n := by
  induction texts generalizing n with
  | nil => rfl
  | cons t texts ih =>
      obtain ⟨fresh, distinct⟩ := List.nodup_cons.mp distinct
      rw [List.take_succ_cons]
      by_cases same : t = s
      · subst same
        have kept {part : List α} (inside : part ⊆ texts) : part.filter (· != t) = part := by
          rw [List.filter_eq_self]
          intro u among
          rw [bne_iff_ne]
          rintro rfl
          exact fresh (inside among)
        rw [List.filter_cons_of_neg (by simp), List.filter_cons_of_neg (by simp),
          kept (List.take_subset n texts), kept (List.Subset.refl texts), List.take_take,
          Nat.min_self]
      · have other : (t != s) = true := by simpa using same
        simp only [List.filter_cons, other, if_true]
        cases n with
        | zero => rfl
        | succ n => rw [List.take_succ_cons, List.take_succ_cons, ih distinct]

/-- A text is among the last distinct ones: it was used, and since then fewer others were. -/
def UsedLately (room : Nat) (uses : List α) (s : α) : Prop :=
  ∃ before after, uses = before ++ s :: after ∧ s ∉ after ∧ after.dedup.length < room

/-- The distinct texts of a history, the one used last in front. -/
def latest (uses : List α) : List α := uses.dedup.reverse

theorem latest_concat (uses : List α) (s : α) :
    latest (uses ++ [s]) = s :: (latest uses).filter (· != s) := by
  rw [latest, latest, dedup_concat, List.reverse_append, List.filter_reverse]
  rfl

theorem latest_nodup (uses : List α) : (latest uses).Nodup :=
  List.nodup_reverse.mpr (List.nodup_dedup uses)

/-- Exactly the texts used since stand in front of a text. -/
theorem latest_split (before : List α) {after : List α} {s : α} (absent : s ∉ after) :
    ∃ rest, latest (before ++ s :: after) = latest after ++ s :: rest := by
  obtain ⟨older, cut⟩ : (s :: after).dedup <:+ (before ++ s :: after).dedup := by
    rw [List.dedup_append]
    exact List.suffix_union_right before _
  refine ⟨older.reverse, ?_⟩
  rw [latest, ← cut, List.dedup_cons_of_notMem absent]
  simp only [latest, List.reverse_append, List.reverse_cons, List.append_assoc,
    List.singleton_append]

theorem mem_take_latest_iff (room : Nat) (uses : List α) (s : α) :
    s ∈ (latest uses).take room ↔ UsedLately room uses s := by
  have within {before after : List α} (absent : s ∉ after) :
      s ∈ (latest (before ++ s :: after)).take room ↔ after.dedup.length < room := by
    obtain ⟨rest, front⟩ := latest_split before absent
    have count : (latest after).length = after.dedup.length := List.length_reverse
    rw [front, List.take_append, List.mem_append, ← count]
    constructor
    · rintro (among | among)
      · have inside := List.mem_reverse.mp (List.mem_of_mem_take among)
        exact absurd (List.mem_dedup.mp inside) absent
      · rw [← Nat.not_le]
        intro full
        rw [Nat.sub_eq_zero_of_le full] at among
        cases among
    · intro free
      refine .inr ?_
      obtain ⟨more, left⟩ := Nat.exists_eq_add_of_lt free
      rw [left, Nat.add_assoc, Nat.add_sub_cancel_left]
      exact List.mem_cons_self
  constructor
  · intro among
    have used := List.mem_dedup.mp (List.mem_reverse.mp (List.mem_of_mem_take among))
    obtain ⟨before, after, rfl, absent⟩ := exists_last_use used
    exact ⟨before, after, rfl, absent, (within absent).mp among⟩
  · rintro ⟨before, after, rfl, absent, few⟩
    exact (within absent).mpr few

end Recent

/-! ### Questions to the gate -/

/-- What the gate is asked: is a file to be skipped by a filter, or is it excluded by a
configuration? -/
inductive Question where
  | skip (target : String) (filter : Filter)
  | excluded (target : String) (c : Configuration)

namespace Question

/-- The answer, the memory after it, and what is logged. -/
def ask (room : Nat) (memory : Memory) : Question → Except Refusal Bool × Memory × List LogRecord
  | .skip target filter => shouldSkip room memory target filter
  | .excluded target c => ((isBlacklisted target c).mapError .group, memory, [])

/-- The text of a pattern that has to be compiled for the question. -/
def source? : Question → Option String
  | .skip _ (.text source) => if source.isEmpty then none else some source
  | .skip _ .none | .skip _ (.compiled _) | .excluded _ _ => none

end Question

/-- What the text of a pattern comes to, as far as that is remembered: a pattern, nothing where it
is malformed, and otherwise it is not remembered at all. -/
def lasting? (room : Nat) (source : String) : Option (Option Pattern) :=
  match Pattern.compile room source with
  | .ok p => some (some p)
  | .error fault => if fault.isMalformed then some none else none

/-- The texts of patterns that were used by questions and remembered, in the order of use. -/
def used (room : Nat) (earlier : List Question) : List String :=
  (earlier.filterMap Question.source?).filter fun source => (lasting? room source).isSome

/-- The memory after questions that were asked one after the other, the first with an empty one. -/
def remembered (room : Nat) (earlier : List Question) : Memory :=
  earlier.foldl (fun memory question => (question.ask room memory).2.1) []

/-- The memory holds the patterns used last, and of each what it comes to. -/
structure Faithful (room : Nat) (memory : Memory) (uses : List String) : Prop where
  sources : memory.map (·.1) = (latest uses).take capacity
  lasting : ∀ entry ∈ memory, lasting? room entry.1 = some entry.2

variable {room : Nat} {memory : Memory} {uses : List String} {source : String}

theorem Faithful.remember (faithful : Faithful room memory uses) {pattern : Option Pattern}
    (lasts : lasting? room source = some pattern) :
    Faithful room (Gate.remember memory source pattern) (uses ++ [source]) := by
  constructor
  · have apart : (memory.filter (·.1 != source)).map (·.1) =
        (memory.map (·.1)).filter (· != source) := by
      rw [List.filter_map]
      rfl
    have slots : capacity = 63 + 1 := rfl
    rw [Gate.remember, List.map_take, List.map_cons, apart, faithful.sources, latest_concat, slots,
      List.take_succ_cons, List.take_succ_cons, filter_take_succ (latest_nodup uses)]
  · intro entry among
    rcases List.mem_cons.mp (List.mem_of_mem_take among) with rfl | kept
    · exact lasts
    · exact faithful.lasting entry (List.mem_of_mem_filter kept)

theorem Faithful.lookup (faithful : Faithful room memory uses) {pattern : Option Pattern}
    (found : memory.lookup source = some pattern) : lasting? room source = some pattern := by
  obtain ⟨before, after, rfl, _⟩ := List.lookup_eq_some_iff.mp found
  exact faithful.lasting (source, pattern) (List.mem_append_right before List.mem_cons_self)

theorem Faithful.lookup_none_iff (faithful : Faithful room memory uses) :
    memory.lookup source = none ↔ ¬UsedLately capacity uses source := by
  rw [← mem_take_latest_iff, ← faithful.sources, List.lookup_eq_none_iff]
  simp only [List.mem_map, not_exists, not_and, bne_iff_ne, ne_eq]
  exact forall₂_congr fun entry _ => ⟨fun other same => other same.symm, fun other same =>
    other same.symm⟩

/-! ### Consulting the memory -/

/-- The answer about a pattern that is remembered. -/
theorem consult_fresh_of_lasting {pattern : Option Pattern}
    (lasts : lasting? room source = some pattern) : (consult room [] source).1 = .ok pattern := by
  rw [lasting?] at lasts
  split at lasts
  · rename_i p compiled
    cases lasts
    simp only [consult, List.lookup_nil, compiled]
  · rename_i fault compiled
    split at lasts
    · rename_i malformed
      cases lasts
      simp only [consult, List.lookup_nil, compiled, malformed, if_true]
    · cases lasts

/-- A pattern that is not in the memory is compiled, and put there if it lasts. -/
theorem consult_new (new : memory.lookup source = none) :
    consult room memory source =
      ((consult room [] source).1,
        ((lasting? room source).map (Gate.remember memory source)).getD memory,
        (consult room [] source).2.2) := by
  cases compiled : Pattern.compile room source with
  | ok p => simp only [consult, new, List.lookup_nil, lasting?, compiled, Option.map_some,
      Option.getD_some]
  | error fault =>
      cases malformed : fault.isMalformed with
      | true => simp only [consult, new, List.lookup_nil, lasting?, compiled, malformed, if_true,
          Option.map_some, Option.getD_some]
      | false => simp only [consult, new, List.lookup_nil, lasting?, compiled, malformed,
          Bool.false_eq_true, if_false, Option.map_none, Option.getD_none]

/-- What consulting the memory comes to: the answer is that of an empty memory, what is logged as
well, except that nothing is logged of a pattern that was used lately, and the memory stays
faithful. -/
structure Consulted (room : Nat) (memory : Memory) (uses : List String) (source : String) : Prop where
  answer : (consult room memory source).1 = (consult room [] source).1
  quiet : UsedLately capacity uses source → (consult room memory source).2.2 = []
  told : ¬UsedLately capacity uses source →
    (consult room memory source).2.2 = (consult room [] source).2.2
  faithful : Faithful room (consult room memory source).2.1
    (uses ++ [source].filter fun source => (lasting? room source).isSome)

theorem Faithful.consulted (faithful : Faithful room memory uses) (source : String) :
    Consulted room memory uses source := by
  cases found : memory.lookup source with
  | some pattern =>
      have lasts := faithful.lookup found
      have known : consult room memory source =
          (.ok pattern, Gate.remember memory source pattern, []) := by
        simp only [consult, found]
      have lately : UsedLately capacity uses source := by
        by_contra forgotten
        rw [← faithful.lookup_none_iff, found] at forgotten
        cases forgotten
      refine ⟨?_, fun _ => ?_, fun forgotten => absurd lately forgotten, ?_⟩
      · rw [known, consult_fresh_of_lasting lasts]
      · rw [known]
      · have kept := faithful.remember lasts
        simpa only [known, List.filter_singleton, lasts, Option.isSome_some, cond_true] using kept
  | none =>
      have forgotten := faithful.lookup_none_iff.mp found
      refine ⟨?_, fun lately => absurd lately forgotten, fun _ => ?_, ?_⟩
      · rw [consult_new found]
      · rw [consult_new found]
      · rw [consult_new found]
        cases lasts : lasting? room source with
        | some pattern =>
            have kept := faithful.remember lasts
            simpa only [List.filter_singleton, lasts, Option.isSome_some, cond_true,
              Option.map_some, Option.getD_some] using kept
        | none =>
            simpa only [List.filter_singleton, lasts, Option.isSome_none, cond_false,
              List.append_nil, Option.map_none, Option.getD_none] using faithful

/-! ### One question after the other -/

/-- A question with a text asks the memory for it, and makes of the answer what it does of any. -/
theorem Question.ask_of_source {question : Question} (asked : question.source? = some source) :
    ∃ answer : Except Pattern.Fault (Option Pattern) → Except Refusal Bool,
      ∀ memory, question.ask room memory =
        (answer (consult room memory source).1, (consult room memory source).2) := by
  cases question with
  | excluded target c => cases asked
  | skip target filter =>
      cases filter with
      | none => cases asked
      | compiled p => cases asked
      | text other =>
          rw [source?] at asked
          split at asked
          · cases asked
          · rename_i filled
            cases asked
            refine ⟨fun compiled => do
              (isExcluded target (← compiled.mapError .pattern)).mapError .group, fun memory => ?_⟩
            simp only [ask, shouldSkip, filled, Bool.false_eq_true, if_false]

/-- Any other question has nothing to do with the memory. -/
theorem Question.ask_of_no_source {question : Question} (unasked : question.source? = none)
    (memory : Memory) : question.ask room memory = ((question.ask room []).1, memory, []) := by
  cases question with
  | excluded target c => rfl
  | skip target filter =>
      cases filter with
      | none => rfl
      | compiled p => rfl
      | text source =>
          rw [source?] at unasked
          split at unasked
          · rename_i empty
            simp only [ask, shouldSkip, empty, if_true]
          · cases unasked

theorem used_concat (room : Nat) (earlier : List Question) (question : Question) :
    used room (earlier ++ [question]) = used room earlier ++
      question.source?.toList.filter fun source => (lasting? room source).isSome := by
  rw [used, List.filterMap_append, List.filter_append, used]
  cases asked : question.source? <;> simp [asked]

theorem remembered_concat (room : Nat) (earlier : List Question) (question : Question) :
    remembered room (earlier ++ [question]) = (question.ask room (remembered room earlier)).2.1 := by
  rw [remembered, List.foldl_append]
  rfl

/-- One question keeps the memory faithful. -/
theorem Faithful.asked {earlier : List Question} (faithful : Faithful room memory (used room earlier))
    (question : Question) :
    Faithful room (question.ask room memory).2.1 (used room (earlier ++ [question])) := by
  rw [used_concat]
  cases asked : question.source? with
  | none =>
      rw [question.ask_of_no_source asked, Option.toList_none, List.filter_nil, List.append_nil]
      exact faithful
  | some source =>
      obtain ⟨answer, asks⟩ := question.ask_of_source asked
      rw [asks]
      exact (faithful.consulted source).faithful

/-- After any questions, the memory is faithful to them. -/
theorem remembered_faithful (room : Nat) (earlier : List Question) :
    Faithful room (remembered room earlier) (used room earlier) := by
  induction earlier using List.reverseRecOn with
  | nil => exact ⟨rfl, fun _ among => absurd among List.not_mem_nil⟩
  | append_singleton earlier question ih =>
      rw [remembered_concat]
      exact ih.asked question

/-- The question has a malformed pattern that is not among the sixty-four used last. -/
structure Warns (room : Nat) (earlier : List Question) (question : Question) (source : String)
    (fault : Pattern.Fault) : Prop where
  asked : question.source? = some source
  malformed : Pattern.compile room source = .error fault ∧ fault.isMalformed = true
  forgotten : ¬UsedLately 64 (used room earlier) source

theorem consult_log_of_malformed {fault : Pattern.Fault}
    (malformed : Pattern.compile room source = .error fault ∧ fault.isMalformed = true) :
    (consult room [] source).2.2 = [warning source fault] := by
  simp only [consult, List.lookup_nil, malformed.1, malformed.2, if_true]

theorem malformed_of_consult_log (told : (consult room [] source).2.2 ≠ []) :
    ∃ fault, Pattern.compile room source = .error fault ∧ fault.isMalformed = true := by
  cases compiled : Pattern.compile room source with
  | ok p =>
      simp only [consult, List.lookup_nil, compiled] at told
      exact absurd rfl told
  | error fault =>
      cases malformed : fault.isMalformed with
      | true => exact ⟨fault, rfl, malformed⟩
      | false =>
          simp only [consult, List.lookup_nil, compiled, malformed, Bool.false_eq_true,
            if_false] at told
          exact absurd rfl told

/-- The memory changes no answer. After any questions, whether they were about patterns as texts,
compiled patterns or configurations, a question has the answer that it has with an empty memory, be
it yes, no or a refusal. There is a warning of exactly the malformed patterns that are not among the
sixty-four used last; and a question without a text, or with an empty one, neither looks at the
memory nor changes it. -/
theorem memory_transparent (room : Nat) (earlier : List Question) (question : Question) :
    (question.ask room (remembered room earlier)).1 = (question.ask room []).1 ∧
    (∀ source fault, Warns room earlier question source fault →
      (question.ask room (remembered room earlier)).2.2 = [warning source fault]) ∧
    ((¬∃ source fault, Warns room earlier question source fault) →
      (question.ask room (remembered room earlier)).2.2 = []) ∧
    (question.source? = none →
      ∀ memory, question.ask room memory = ((question.ask room []).1, memory, [])) := by
  refine ⟨?_, ?_, ?_, fun unasked => question.ask_of_no_source unasked⟩
  · cases asked : question.source? with
    | none => rw [question.ask_of_no_source asked]
    | some source =>
        obtain ⟨answer, asks⟩ := question.ask_of_source asked
        rw [asks, asks, ((remembered_faithful room earlier).consulted source).answer]
  · rintro source fault ⟨asked, malformed, forgotten⟩
    obtain ⟨answer, asks⟩ := question.ask_of_source asked
    rw [asks, ((remembered_faithful room earlier).consulted source).told forgotten]
    exact consult_log_of_malformed malformed
  · intro unwarned
    cases asked : question.source? with
    | none => rw [question.ask_of_no_source asked]
    | some source =>
        obtain ⟨answer, asks⟩ := question.ask_of_source asked
        have consulted := (remembered_faithful room earlier).consulted source
        rw [asks]
        by_cases lately : UsedLately 64 (used room earlier) source
        · exact consulted.quiet lately
        · rw [consulted.told lately]
          by_contra told
          obtain ⟨fault, malformed⟩ := malformed_of_consult_log told
          exact unwarned ⟨source, fault, asked, malformed, lately⟩

theorem compile_unclosed : Pattern.compile 980 "(" =
    .error (.malformed "missing ), unterminated subpattern" (some 0)) := by cbv

/-- A question about a text that is no pattern. -/
def unclosed : Question := .skip "/work/site.yml" (.text "(")

theorem used_unclosed : used 980 [unclosed] = ["("] := by
  have lasts : lasting? 980 "(" = some none := by
    simp only [lasting?, compile_unclosed]
    rfl
  have asked : [unclosed].filterMap Question.source? = ["("] := by rfl
  rw [used, asked, List.filter_singleton, lasts]
  rfl

/-- A malformed pattern is reported when it is met first, and not when it is met again. -/
theorem unclosed_reported_once :
    Warns 980 [] unclosed "(" (.malformed "missing ), unterminated subpattern" (some 0)) ∧
      (unclosed.ask 980 (remembered 980 [])).2.2 =
        [warning "(" (.malformed "missing ), unterminated subpattern" (some 0))] ∧
      (¬∃ source fault, Warns 980 [unclosed] unclosed source fault) ∧
      (unclosed.ask 980 (remembered 980 [unclosed])).2.2 = [] ∧
      (Question.excluded "/work/site.yml" .default).source? = none ∧
      ∀ memory, ((Question.excluded "/work/site.yml" .default).ask 980 memory).2 = (memory, []) := by
  have warns : Warns 980 [] unclosed "("
      (.malformed "missing ), unterminated subpattern" (some 0)) := by
    refine ⟨rfl, ⟨compile_unclosed, rfl⟩, ?_⟩
    rintro ⟨before, after, cut, _⟩
    have filled : before ++ "(" :: after ≠ [] := List.append_ne_nil_of_right_ne_nil _ nofun
    exact filled cut.symm
  have unwarned : ¬∃ source fault, Warns 980 [unclosed] unclosed source fault := by
    rintro ⟨source, fault, asked, _, forgotten⟩
    have same : "(" = source := Option.some.inj asked
    subst same
    apply forgotten
    rw [used_unclosed]
    exact ⟨[], [], rfl, nofun, by decide⟩
  have unasked : (Question.excluded "/work/site.yml" .default).source? = none := rfl
  obtain ⟨_, told, _, _⟩ := memory_transparent 980 [] unclosed
  obtain ⟨_, _, quiet, _⟩ := memory_transparent 980 [unclosed] unclosed
  obtain ⟨_, _, _, apart⟩ := memory_transparent 980 [] (.excluded "/work/site.yml" .default)
  refine ⟨warns, told _ _ warns, unwarned, quiet unwarned, unasked, fun memory => ?_⟩
  rw [apart unasked memory]

end PlaybookLint.Gate
