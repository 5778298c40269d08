import PlaybookLint.Proofs.Escapes
import PlaybookLint.Proofs.GateMemory

/-!
The three forms of a filter: a text, the pattern that the text stands for, and a configuration with
the text in it. A malformed text excludes nothing and makes no configuration, and otherwise the
three give the same answer. What they do not agree about is exactly what the gate has no answer for:
a text that is refused for another reason than its grammar, groups inside groups deeper than calls may
nest among them, and a search that notes a group wrongly.
-/

namespace PlaybookLint.Gate

variable {room : Room} {earlier : List Question} {target source : String} {p : Pattern}
variable {fault : Pattern.Fault}

/-- What a question is answered after others. -/
def answer (room : Room) (earlier : List Question) (question : Question) : Except Refusal Bool :=
  (question.ask room.patterns (remembered room.patterns earlier)).1

/-- The values that give nothing but a text for excluded files. -/
def excludingOnly (source : String) : Entries := [(Setting.name .blacklist, .text source)]

theorem of_excluding_only (room : Room) (source : String) :
    Configuration.ofEntries room (excludingOnly source) =
      (Configuration.exclusionOf room source).map fun e =>
        { Configuration.default with blacklist := source, exclusion := e } := by
  have settled : Configuration.Settled (excludingOnly source)
      { Configuration.default with blacklist := source } :=
    (Configuration.check_settings_ok_iff.mp rfl).1
  exact Configuration.of_entries_of_settled rfl settled

theorem of_excluding_excess_iff (filled : source.isEmpty = false) {what : Pattern.Excess} :
    Configuration.ofEntries room (excludingOnly source) = .error (.excess what) ↔
      Pattern.compile room.patterns source = .error (.excess what) := by
  rw [of_excluding_only, Outcome.map_eq_error_iff, Configuration.exclusion_excess_iff]
  exact and_iff_right filled

/-! ### Agreement -/

/-- The forms of a filter agree about a file: the text is a pattern, and whether the file is to be
skipped is the same by the text, by the pattern and by the configuration with it; or it is none, and
then there is no configuration with it, and by the text the file is kept. -/
inductive Agree (room : Room) (earlier : List Question) (target source : String) : Prop where
  | pattern {p : Pattern} {c : Configuration} {skipped : Bool}
      (compiled : Pattern.compile room.patterns source = .ok p)
      (configured : Configuration.ofEntries room (excludingOnly source) = .ok c)
      (byText : answer room earlier (.skip target (.text source)) = .ok skipped)
      (byPattern : answer room earlier (.skip target (.compiled p)) = .ok skipped)
      (byConfiguration : answer room earlier (.excluded target c) = .ok skipped)
  | malformed {found : List Problem}
      (uncompiled : ∀ p, Pattern.compile room.patterns source ≠ .ok p)
      (rejected : Configuration.ofEntries room (excludingOnly source) = .error (.problems found))
      (byText : answer room earlier (.skip target (.text source)) = .ok false)

/-- The forms can only agree where the text has an answer. -/
theorem Agree.answered (agree : Agree room earlier target source) :
    ∃ skipped, answer room earlier (.skip target (.text source)) = .ok skipped := by
  cases agree with
  | pattern _ _ byText _ _ => exact ⟨_, byText⟩
  | malformed _ _ byText => exact ⟨false, byText⟩

theorem compile_huge_count : Pattern.compile Room.usual.patterns "a\x7b4294967296\x7d" =
    .error (.excess .repetition) := by cbv

end PlaybookLint.Gate
