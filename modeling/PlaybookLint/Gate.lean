import PlaybookLint.Settings.Configuration
import PlaybookLint.Log

/-!
The gate that keeps excluded files from being linted. Patterns given as texts are compiled once and
remembered, as long as they are among the sixty-four used last; one that is malformed is reported
when it is compiled and excludes nothing. Remembering changes no answer.
-/

namespace PlaybookLint.Gate

/-- What excludes a file. -/
inductive Filter where
  | none
  | text (source : String)
  | compiled (pattern : Pattern)

/-- Patterns that have been compiled, the latest used first; a malformed one is remembered as
nothing. -/
abbrev Memory := List (String × Option Pattern)

/-- How many patterns are remembered. -/
def capacity : Nat := 64

/-- Puts a pattern in front and drops those beyond the capacity. -/
def remember (memory : Memory) (source : String) (pattern : Option Pattern) : Memory :=
  ((source, pattern) :: memory.filter (·.1 != source)).take capacity

/-- What is logged of a malformed pattern. -/
def warning (source : String) (fault : Pattern.Fault) : LogRecord :=
  .warning .gate
    s!"ignoring invalid blacklist pattern {Text.quoted source}: {fault.message source}"

/-- A pattern from memory or compiled afresh, the memory after that, and what is logged. `room` tells
how deep calls may nest. -/
def consult (room : Nat) (memory : Memory) (source : String) :
    Except Pattern.Fault (Option Pattern) × Memory × List LogRecord :=
  match memory.lookup source with
  | some pattern => (.ok pattern, remember memory source pattern, [])
  | Option.none =>
    match Pattern.compile room source with
    | .ok p => (.ok (some p), remember memory source (some p), [])
    | .error fault =>
      if fault.isMalformed then
        (.ok Option.none, remember memory source Option.none, [warning source fault])
      else (.error fault, memory, [])

/-- Why the gate has no answer: a text that is no pattern, for a reason other than its grammar, or a
search that noted a group wrongly. -/
inductive Refusal where
  | pattern (fault : Pattern.Fault)
  | group (fault : Pattern.BrokenGroup)
deriving Repr, DecidableEq

/-- Is the file excluded by a pattern, if there is one? -/
def isExcluded (target : String) : Option Pattern → Except Pattern.BrokenGroup Bool
  | Option.none => .ok false
  | some p => p.occursIn target

/-- Is the file to be skipped? With the answer come the memory after it and what is logged. -/
def shouldSkip (room : Nat) (memory : Memory) (target : String) :
    Filter → Except Refusal Bool × Memory × List LogRecord
  | .none => (.ok false, memory, [])
  | .compiled p => ((p.occursIn target).mapError .group, memory, [])
  | .text source =>
    if source.isEmpty then (.ok false, memory, [])
    else
      let (answer, memory, log) := consult room memory source
      let answer := do (isExcluded target (← answer.mapError .pattern)).mapError .group
      (answer, memory, log)

/-- Does a configuration exclude the file? -/
def isBlacklisted (target : String) (c : Configuration) : Except Pattern.BrokenGroup Bool :=
  isExcluded target c.exclusion

end PlaybookLint.Gate
