import PlaybookLint.Command.Invocation
import PlaybookLint.Proofs.Starting
import PlaybookLint.Proofs.TimeLimit

/-!
Calls of the linter program. A call brings back an output unless the system refuses a text with a null
character or cannot wait as long as it is told to. The output gives a reason for failure exactly if the
program did not come to its end in time or somebody could still write when the time was over. It keeps
all that was written if there is none, whatever the return code is; otherwise it keeps what had been
written by then, but nothing of a program that goes on when nobody can write any more.
-/

namespace PlaybookLint

namespace Command

/-! ### The linter's own options -/

/-- The options that the linter is run with: a directory and a time limit beside the usual ones. -/
def linterOptions (directory : Path) (seconds : Binary64) : Options where
  cwd := some (.ofText directory.text)
  env := none
  captureOutput := true
  text := true
  timeout := .decimal seconds
  discardInput := true

theorem override_defaults (directory : String) {seconds : Binary64}
    (counts : seconds.isNegative = false) :
    Options.override Options.defaults [("cwd", .text directory), ("timeout", .decimal seconds)] =
      .ok [("cwd", .text directory), ("env", .null), ("capture_output", .flag true),
        ("text", .flag true), ("timeout", .decimal seconds), ("discard_stdin", .flag true)] := by
  have given : Entries.value? [("cwd", .text directory), ("env", .null),
      ("capture_output", .flag true), ("text", .flag true), ("timeout", .decimal seconds),
      ("discard_stdin", .flag true)] "timeout" = some (.decimal seconds) := by rfl
  have put : Options.defaults.putAll [("cwd", .text directory), ("timeout", .decimal seconds)] =
      [("cwd", .text directory), ("env", .null), ("capture_output", .flag true),
        ("text", .flag true), ("timeout", .decimal seconds), ("discard_stdin", .flag true)] := by rfl
  simp only [Options.override, put, given, Option.getD_some, Options.isNegative, counts]
  rfl

theorem invoke_within_eq (host : Host) (c : Call) {seconds : Binary64}
    (counts : seconds.isNegative = false) :
    (invokeWithin host c seconds).2.2 =
      (report c.executable (run host (linterOptions c.directory seconds)
        (c.executable :: c.arguments))).mapError .command := by
  simp only [invokeWithin, override_defaults _ counts]
  rfl

theorem seconds_not_negative {ms : Int} {seconds : Binary64} (counts : 0 ≤ ms)
    (fits : secondsOf ms = some seconds) : seconds.isNegative = false := by
  have forward : decide (ms < 0) = false := decide_eq_false (Int.not_lt.mpr counts)
  rw [secondsOf, forward] at fits
  rcases Binary64.of_ratio_above_zero ms.natAbs 1000 with ⟨mantissa, exponent, finite⟩ | infinite
  · rw [finite] at fits
    cases fits
    rfl
  · rw [infinite] at fits
    cases fits

theorem invoke_eq (host : Host) {c : Call} {seconds : Binary64} (counts : 0 ≤ c.timeLimit)
    (fits : secondsOf c.timeLimit = some seconds) :
    (invoke host c).2 = (report c.executable (run host (linterOptions c.directory seconds)
      (c.executable :: c.arguments))).mapError .command := by
  rw [invoke, fits]
  exact invoke_within_eq host c (seconds_not_negative counts fits)

/-! ### Waiting -/

/-- The time is longer than can be waited for. -/
def TooLong (seconds : Binary64) : Prop :=
  ∀ ms, thousandths seconds = some ms → waitLimit < (begunThousandths seconds).getD ms

theorem wait_for_cases (seconds : Binary64) :
    (∃ fault, TooLong seconds ∧ waitFor seconds = .error fault) ∨
      ∃ ms, ¬TooLong seconds ∧ waitFor seconds = .ok ms := by
  cases whole : thousandths seconds with
  | none =>
      refine .inl ⟨.endless, fun ms known => ?_, by simp only [waitFor, whole]⟩
      cases whole.symm.trans known
  | some ms =>
      have long_iff : TooLong seconds ↔ waitLimit < (begunThousandths seconds).getD ms :=
        ⟨fun long => long ms whole, fun long other known =>
          Option.some.inj (whole.symm.trans known) ▸ long⟩
      have shorter : waitLimit < clockLimit := by decide
      rw [long_iff]
      simp only [waitFor, whole]
      split
      · rename_i beyond
        exact .inl ⟨_, Nat.lt_trans shorter beyond, rfl⟩
      · split
        · exact .inl ⟨_, ‹_›, rfl⟩
        · exact .inr ⟨_, ‹_›, rfl⟩

/-- The program comes to its end before a time. -/
def Finishes (p : Performance) (limit : Nat) (finish : Finish) : Prop :=
  p.finish = some finish ∧ finish.time < limit

/-- There is a time before that one when nobody can write any more: neither the program nor a process
that it has left behind. -/
def Closes (p : Performance) (limit : Nat) : Prop :=
  ∃ silence, p.silence = some silence ∧ silence < limit

/-- The program comes to its end before a time, and by then nobody can write any more. -/
def EndsBy (p : Performance) (limit : Nat) (finish : Finish) : Prop :=
  Finishes p limit finish ∧ Closes p limit

theorem fell_silent_iff (p : Performance) (limit : Nat) :
    fellSilent p limit = true ↔ Closes p limit := by
  rw [fellSilent, Closes]
  cases p.silence <;> simp

theorem ends_within_eq_some_iff {o : Options} (captures : o.captureOutput = true) (p : Performance)
    (limit : Nat) (finish : Finish) :
    endsWithin o p (some limit) = some finish ↔ EndsBy p limit finish := by
  simp only [endsWithin, awaitedTime, captures, if_true, EndsBy, Finishes, Closes]
  cases ended : p.finish with
  | none => simp
  | some finish' =>
      cases quiet : p.silence with
      | none => simp
      | some silence =>
          simp only [Option.some.injEq, exists_eq_left']
          split
          · rename_i early
            refine ⟨?_, fun ⟨⟨same, _⟩, _⟩ => congrArg some same⟩
            intro same
            cases same
            obtain ⟨finished, closed⟩ := Nat.max_lt.mp early
            exact ⟨⟨rfl, finished⟩, closed⟩
          · rename_i late
            refine iff_of_false nofun ?_
            rintro ⟨⟨rfl, finished⟩, closed⟩
            exact late (Nat.max_lt.mpr ⟨finished, closed⟩)

/-! ### Running -/

/-- The first program that a command leads to is started, and this is what it does. -/
def Performs (host : Host) (c : Call) (seconds : Binary64) (p : Performance) : Prop :=
  ∃ found started, normalize host (c.executable :: c.arguments) = .ok (found :: c.arguments) ∧
    spawn host (linterOptions c.directory seconds) found c.arguments = .ok started ∧
    p = (host.machine.perform started.image started.directory started.env host.tree).1

/-- The program is found, but there is a null character in its path, in an argument or in the name of
the directory. -/
def GivesNull (host : Host) (c : Call) : Prop :=
  ∃ found, normalize host (c.executable :: c.arguments) = .ok (found :: c.arguments) ∧
    (found :: c.arguments ++ [(Path.ofText c.directory.text).text]).any hasNull = true

theorem run_eq (host : Host) (o : Options) (args : List String) :
    run host o args = ((normalize host args).mapError .lookup).bind fun command =>
      ((spawn host o (command.headD "") command.tail).mapError .spawn).bind fun started =>
        ((waitingTime o).mapError .limit).bind fun limit =>
          await o command
            (host.machine.perform started.image started.directory started.env host.tree).1 limit := by
  rw [run, carryOut]
  cases normalize host args with
  | error fault => rfl
  | ok command =>
      cases spawned : spawn host o (command.headD "") command.tail with
      | error fault => simp only [Except.mapError, bind, Except.bind, spawned]
      | ok started =>
          cases limited : waitingTime o with
          | error fault => simp only [Except.mapError, bind, Except.bind, spawned]
          | ok limit => simp only [Except.mapError, bind, Except.bind, spawned, pure, Except.pure]

variable {host : Host} {c : Call} {seconds : Binary64}

theorem waiting_time_eq (directory : Path) (seconds : Binary64) :
    waitingTime (linterOptions directory seconds) = (waitFor seconds).map some := by
  rw [waitingTime]
  simp only [linterOptions, limitOf, bind, Except.bind, if_true]
  cases waitFor seconds <;> rfl

theorem spawn_linter_eq (host : Host) (directory : Path) (seconds : Binary64) (name : String)
    (words : List String) : spawn host (linterOptions directory seconds) name words =
      if (name :: words ++ [(Path.ofText directory.text).text]).any hasNull then
        .error .nullCharacter
      else (enter host (some (Path.ofText directory.text))).bind
        (startIn host host.env name words) := by
  rw [spawn_eq]
  simp only [linterOptions, textsOf, Option.mapM_none, pure, Except.pure, Except.bind, Option.getD_none,
    List.map_nil, List.append_nil, Option.map_some, Option.toList_some]

theorem spawn_refused {directory : Path} {name : String} {words : List String} {fault : SpawnFault}
    (clean : (name :: words ++ [(Path.ofText directory.text).text]).any hasNull = false)
    (refused : spawn host (linterOptions directory seconds) name words = .error fault) :
    ∃ refusal, fault = .refused refusal := by
  rw [spawn_linter_eq, clean] at refused
  cases entered : enter host (some (Path.ofText directory.text)) with
  | error fault' =>
      rw [entered] at refused
      cases refused
      rw [enter] at entered
      split at entered
      · cases entered
        exact ⟨_, rfl⟩
      · split at entered
        · cases entered
        · cases entered
          exact ⟨_, rfl⟩
        · cases entered
          exact ⟨_, rfl⟩
  | ok place =>
      simp only [entered, Except.bind, startIn, Bool.false_eq_true, if_false] at refused
      split at refused
      · cases refused
      · cases refused
        exact ⟨_, rfl⟩

theorem run_of_performs {p : Performance} (performs : Performs host c seconds p) :
    ∃ found, run host (linterOptions c.directory seconds) (c.executable :: c.arguments) =
      ((waitFor seconds).mapError Fault.limit).bind fun limit =>
        await (linterOptions c.directory seconds) (found :: c.arguments) p (some limit) := by
  obtain ⟨found, started, accepted, starts, rfl⟩ := performs
  refine ⟨found, ?_⟩
  rw [run_eq, accepted]
  simp only [Except.mapError, Except.bind, List.headD_cons, List.tail_cons, starts, waiting_time_eq]
  cases waitFor seconds <;> rfl

/-- A program that ended in time is reported with all its outputs, their line ends unified. -/
theorem report_of_ended {p : Performance} {limit : Nat} {finish : Finish} {executable : String}
    {command : List String} {directory : Path} (ended : EndsBy p limit finish) :
    report executable (await (linterOptions directory seconds) command p (some limit)) =
      .ok ⟨textOf (p.all .out), textOf (p.all .err), some finish.code, none⟩ := by
  have within := (ends_within_eq_some_iff (o := linterOptions directory seconds) rfl p limit
    finish).mpr ended
  simp only [await, within]
  rfl

/-- What is kept of a channel when a program is given up: what had been written by then, line ends as
they are, or nothing at all if nobody could write any more. -/
def keptOf (p : Performance) (channel : Channel) (limit : Nat) : String :=
  if fellSilent p limit then "" else Text.Utf8.decodeReplacing (p.written channel (· < limit))

theorem kept_of_open {p : Performance} {limit : Nat} (open_ : ¬Closes p limit) (channel : Channel) :
    keptOf p channel limit = Text.Utf8.decodeReplacing (p.written channel (· < limit)) := by
  rw [keptOf, if_neg fun silent => open_ ((fell_silent_iff p limit).mp silent)]

theorem kept_of_closed {p : Performance} {limit : Nat} (closed : Closes p limit) (channel : Channel) :
    keptOf p channel limit = "" := by
  rw [keptOf, if_pos ((fell_silent_iff p limit).mpr closed)]

/-- A program that was given up is reported with what is kept of its outputs. -/
theorem report_of_late {p : Performance} {limit : Nat} (executable : String) (command : List String)
    (directory : Path) (seconds : Binary64) (late : ∀ finish, ¬EndsBy p limit finish) :
    ∃ reason, reason ≠ "" ∧
      report executable (await (linterOptions directory seconds) command p (some limit)) =
        .ok ⟨keptOf p .out limit, keptOf p .err limit, none, some reason⟩ := by
  have without : endsWithin (linterOptions directory seconds) p (some limit) = none := by
    rw [Option.eq_none_iff_forall_ne_some]
    intro finish within
    exact late finish ((ends_within_eq_some_iff rfl p limit finish).mp within)
  have partial_ (channel : Channel) :
      partialText (linterOptions directory seconds) p channel limit = keptOf p channel limit := by
    rw [partialText, keptOf]
    cases fellSilent p limit <;> rfl
  simp only [await, without, Option.getD_some, partial_]
  refine ⟨_, ?_, rfl⟩
  simp [TimedOut.message, toString]

theorem not_on_path_of_refused {name : String} {words : List String} {fault : LookupFault}
    (refused : normalize host (name :: words) = .error fault) : ∃ name, fault = .notOnPath name := by
  simp only [normalize] at refused
  split at refused
  · cases refused
  · split at refused
    · cases refused
    · cases refused
      exact ⟨_, rfl⟩

section

variable (counts : 0 ≤ c.timeLimit) (fits : secondsOf c.timeLimit = some seconds)
include counts fits

theorem invoke_of_null (given : GivesNull host c) :
    (invoke host c).2 = .error (.command (.spawn .nullCharacter)) := by
  obtain ⟨found, accepted, null⟩ := given
  rw [invoke_eq host counts fits, run_eq, accepted]
  simp only [Except.mapError, Except.bind, List.headD_cons, List.tail_cons, spawn_linter_eq, null,
    if_true, report]

theorem invoke_of_too_long {p : Performance} (performs : Performs host c seconds p)
    (long : TooLong seconds) : ∃ fault, (invoke host c).2 = .error (.command (.limit fault)) := by
  obtain ⟨found, ran⟩ := run_of_performs performs
  rcases wait_for_cases seconds with ⟨fault, _, refused⟩ | ⟨ms, short, _⟩
  · refine ⟨fault, ?_⟩
    rw [invoke_eq host counts fits, ran, refused]
    rfl
  · exact absurd long short

theorem invoke_of_ended {p : Performance} {limit : Nat} {finish : Finish}
    (performs : Performs host c seconds p) (waits : waitFor seconds = .ok limit)
    (ended : EndsBy p limit finish) : (invoke host c).2 =
      .ok ⟨textOf (p.all .out), textOf (p.all .err), some finish.code, none⟩ := by
  obtain ⟨found, ran⟩ := run_of_performs performs
  rw [invoke_eq host counts fits, ran, waits]
  simp only [Except.mapError, Except.bind, report_of_ended ended]

theorem invoke_of_late {p : Performance} {limit : Nat} (performs : Performs host c seconds p)
    (waits : waitFor seconds = .ok limit) (late : ∀ finish, ¬EndsBy p limit finish) :
    ∃ reason, reason ≠ "" ∧ (invoke host c).2 =
      .ok ⟨keptOf p .out limit, keptOf p .err limit, none, some reason⟩ := by
  obtain ⟨found, ran⟩ := run_of_performs performs
  obtain ⟨reason, filled, told⟩ := report_of_late c.executable (found :: c.arguments) c.directory
    seconds late
  refine ⟨reason, filled, ?_⟩
  rw [invoke_eq host counts fits, ran, waits]
  simp only [Except.mapError, Except.bind, told]

/-- A program that is not started leaves a reason and nothing else. -/
theorem invoke_of_unstarted (clean : ¬GivesNull host c) (none : ∀ p, ¬Performs host c seconds p) :
    ∃ reason, reason ≠ "" ∧ (invoke host c).2 = .ok (.ofFailure reason) := by
  rw [invoke_eq host counts fits, run_eq]
  cases accepted : normalize host (c.executable :: c.arguments) with
  | error fault =>
      obtain ⟨name, rfl⟩ := not_on_path_of_refused accepted
      refine ⟨_, ?_, rfl⟩
      simp [toString]
  | ok command =>
      obtain ⟨found, rfl, _⟩ := found_of_normalize accepted
      cases starts : spawn host (linterOptions c.directory seconds) found c.arguments with
      | ok started => exact absurd ⟨found, started, accepted, starts, rfl⟩ (none _)
      | error fault =>
          have noNull : (found :: c.arguments ++ [(Path.ofText c.directory.text).text]).any
              hasNull = false := by
            rw [← Bool.not_eq_true]
            exact fun null => clean ⟨found, accepted, null⟩
          obtain ⟨refusal, rfl⟩ := spawn_refused noNull starts
          simp only [Except.mapError, Except.bind, List.headD_cons, List.tail_cons, starts]
          refine ⟨_, ?_, rfl⟩
          simp [toString]

end

theorem Performs.unique {p p' : Performance} (performs : Performs host c seconds p)
    (performs' : Performs host c seconds p') : p = p' := by
  obtain ⟨found, started, accepted, starts, rfl⟩ := performs
  obtain ⟨found', started', accepted', starts', rfl⟩ := performs'
  cases accepted.symm.trans accepted'
  cases starts.symm.trans starts'
  rfl

/-- The program is started, and it comes to its end while it is waited for. -/
def Completes (host : Host) (c : Call) (seconds : Binary64) : Prop :=
  ∃ p limit finish, Performs host c seconds p ∧ waitFor seconds = .ok limit ∧ Finishes p limit finish

/-- The program is started, and while it is waited for there comes a time when nobody can write any
more. -/
def FallsSilent (host : Host) (c : Call) (seconds : Binary64) : Prop :=
  ∃ p limit, Performs host c seconds p ∧ waitFor seconds = .ok limit ∧ Closes p limit

/-- An output that agrees with what came of the program. It has a reason for failure unless the program
completed and nobody could write any more. It keeps the outputs and the return code of a program of
which that is true, and nothing of one that was not started. Of any other it keeps what had been written
in time, but nothing if all had been closed before the program was given up. -/
structure Faithful (host : Host) (c : Call) (seconds : Binary64) (output : ToolOutput) : Prop where
  failure_iff : output.failure = none ↔ Completes host c seconds ∧ FallsSilent host c seconds
  filled : output.failure ≠ some ""
  unstarted : (∀ p, ¬Performs host c seconds p) → ∃ reason, output = .ofFailure reason
  ended : ∀ p limit finish, Performs host c seconds p → waitFor seconds = .ok limit →
    Finishes p limit finish → Closes p limit →
      output = ⟨textOf (p.all .out), textOf (p.all .err), some finish.code, none⟩
  late : ∀ p limit, Performs host c seconds p → waitFor seconds = .ok limit → ¬Closes p limit →
    ∃ reason, output = ⟨Text.Utf8.decodeReplacing (p.written .out (· < limit)),
      Text.Utf8.decodeReplacing (p.written .err (· < limit)), none, some reason⟩
  lost : ∀ p limit, Performs host c seconds p → waitFor seconds = .ok limit → Closes p limit →
    (∀ finish, ¬Finishes p limit finish) → ∃ reason, output = .ofFailure reason

/-- Completing and falling silent in time is ending in time. -/
theorem completes_iff_of_performs {p : Performance} {limit : Nat}
    (performs : Performs host c seconds p) (waits : waitFor seconds = .ok limit) :
    Completes host c seconds ∧ FallsSilent host c seconds ↔ ∃ finish, EndsBy p limit finish := by
  constructor
  · rintro ⟨⟨p', limit', finish, performs', waits', finishes⟩, p'', limit'', performs'', waits'',
      closes⟩
    obtain rfl := performs.unique performs'
    obtain rfl := performs.unique performs''
    cases waits.symm.trans waits'
    cases waits.symm.trans waits''
    exact ⟨finish, finishes, closes⟩
  · rintro ⟨finish, finishes, closes⟩
    exact ⟨⟨p, limit, finish, performs, waits, finishes⟩, p, limit, performs, waits, closes⟩

theorem Faithful.of_unstarted {reason : String} (filled : reason ≠ "")
    (none : ∀ p, ¬Performs host c seconds p) :
    Faithful host c seconds (.ofFailure reason) where
  failure_iff := by
    refine iff_of_false nofun ?_
    rintro ⟨⟨p, _, _, performs, _⟩, _⟩
    exact none p performs
  filled same := filled (Option.some.inj same)
  unstarted _ := ⟨reason, rfl⟩
  ended p _ _ performs := absurd performs (none p)
  late p _ performs := absurd performs (none p)
  lost p _ performs := absurd performs (none p)

theorem Faithful.of_ended {p : Performance} {limit : Nat} {finish : Finish}
    (performs : Performs host c seconds p) (waits : waitFor seconds = .ok limit)
    (ends : EndsBy p limit finish) :
    Faithful host c seconds ⟨textOf (p.all .out), textOf (p.all .err), some finish.code, none⟩ where
  failure_iff := iff_of_true rfl ((completes_iff_of_performs performs waits).mpr ⟨finish, ends⟩)
  filled := nofun
  unstarted none := absurd performs (none p)
  ended p' limit' finish' performs' waits' finishes' closes' := by
    obtain rfl := performs.unique performs'
    have same : finish = finish' := Option.some.inj (ends.1.1.symm.trans finishes'.1)
    rw [same]
  late p' limit' performs' waits' open' := by
    obtain rfl := performs.unique performs'
    cases waits.symm.trans waits'
    exact absurd ends.2 open'
  lost p' limit' performs' waits' closes' never := by
    obtain rfl := performs.unique performs'
    cases waits.symm.trans waits'
    exact absurd ends.1 (never finish)

theorem Faithful.of_late {p : Performance} {limit : Nat} {reason : String}
    (performs : Performs host c seconds p) (waits : waitFor seconds = .ok limit)
    (never : ∀ finish, ¬EndsBy p limit finish) (filled : reason ≠ "") :
    Faithful host c seconds ⟨keptOf p .out limit, keptOf p .err limit, none, some reason⟩ where
  failure_iff := by
    refine iff_of_false nofun ?_
    rw [completes_iff_of_performs performs waits]
    rintro ⟨finish, ends⟩
    exact never finish ends
  filled same := filled (Option.some.inj same)
  unstarted none := absurd performs (none p)
  ended p' limit' finish performs' waits' finishes closes := by
    obtain rfl := performs.unique performs'
    cases waits.symm.trans waits'
    exact absurd ⟨finishes, closes⟩ (never finish)
  late p' limit' performs' waits' open' := by
    obtain rfl := performs.unique performs'
    cases waits.symm.trans waits'
    rw [kept_of_open open', kept_of_open open']
    exact ⟨reason, rfl⟩
  lost p' limit' performs' waits' closes _ := by
    obtain rfl := performs.unique performs'
    cases waits.symm.trans waits'
    rw [kept_of_closed closes, kept_of_closed closes]
    exact ⟨reason, rfl⟩

/-- What a call comes to. -/
inductive Reply (host : Host) (c : Call) (seconds : Binary64) :
    Except InvocationFault ToolOutput → Prop
  | null (given : GivesNull host c) :
      Reply host c seconds (.error (.command (.spawn .nullCharacter)))
  | tooLong {p : Performance} {fault : LimitFault} (performs : Performs host c seconds p)
      (long : TooLong seconds) : Reply host c seconds (.error (.command (.limit fault)))
  | unstarted {reason : String} (clean : ¬GivesNull host c) (filled : reason ≠ "")
      (none : ∀ p, ¬Performs host c seconds p) : Reply host c seconds (.ok (.ofFailure reason))
  | ended {p : Performance} {limit : Nat} {finish : Finish} (performs : Performs host c seconds p)
      (waits : waitFor seconds = .ok limit) (ends : EndsBy p limit finish) :
      Reply host c seconds
        (.ok ⟨textOf (p.all .out), textOf (p.all .err), some finish.code, none⟩)
  | late {p : Performance} {limit : Nat} {reason : String} (performs : Performs host c seconds p)
      (waits : waitFor seconds = .ok limit) (never : ∀ finish, ¬EndsBy p limit finish)
      (filled : reason ≠ "") :
      Reply host c seconds (.ok ⟨keptOf p .out limit, keptOf p .err limit, none, some reason⟩)

theorem invoke_reply (counts : 0 ≤ c.timeLimit) (fits : secondsOf c.timeLimit = some seconds) :
    Reply host c seconds (invoke host c).2 := by
  by_cases given : GivesNull host c
  · rw [invoke_of_null counts fits given]
    exact .null given
  by_cases performs : ∃ p, Performs host c seconds p
  · obtain ⟨p, performs⟩ := performs
    rcases wait_for_cases seconds with ⟨_, long, _⟩ | ⟨limit, _, waits⟩
    · obtain ⟨fault, failed⟩ := invoke_of_too_long counts fits performs long
      rw [failed]
      exact .tooLong performs long
    · by_cases ends : ∃ finish, EndsBy p limit finish
      · obtain ⟨finish, ends⟩ := ends
        rw [invoke_of_ended counts fits performs waits ends]
        exact .ended performs waits ends
      · rw [not_exists] at ends
        obtain ⟨reason, filled, told⟩ := invoke_of_late counts fits performs waits ends
        rw [told]
        exact .late performs waits ends filled
  · rw [not_exists] at performs
    obtain ⟨reason, filled, told⟩ := invoke_of_unstarted counts fits given performs
    rw [told]
    exact .unstarted given filled performs

theorem Reply.faithful {output : ToolOutput} (reply : Reply host c seconds (.ok output)) :
    Faithful host c seconds output := by
  cases reply with
  | unstarted clean filled none => exact .of_unstarted filled none
  | ended performs waits ends => exact .of_ended performs waits ends
  | late performs waits never filled => exact .of_late performs waits never filled

theorem Performs.clean {p : Performance} (performs : Performs host c seconds p) :
    ¬GivesNull host c := by
  obtain ⟨found, started, accepted, starts, _⟩ := performs
  rintro ⟨found', accepted', null⟩
  cases accepted.symm.trans accepted'
  rw [spawn_linter_eq, null] at starts
  cases starts

theorem able_of_waits {p : Performance} {limit : Nat} (performs : Performs host c seconds p)
    (waits : waitFor seconds = .ok limit) :
    ¬GivesNull host c ∧ ¬((∃ p, Performs host c seconds p) ∧ TooLong seconds) := by
  refine ⟨performs.clean, fun impatient => ?_⟩
  rcases wait_for_cases seconds with ⟨fault, _, refused⟩ | ⟨_, short, _⟩
  · cases refused.symm.trans waits
  · exact short impatient.2

/-- A call brings back an output, which agrees with what came of the program, unless there is a null
character in what the system is given, or the program was started and the system cannot wait as long as
it is told to; then the call fails. -/
theorem invocation_reported_iff {host : Host} {c : Call} {seconds : Binary64}
    (counts : 0 ≤ c.timeLimit) (fits : secondsOf c.timeLimit = some seconds) :
    ((∃ output, (invoke host c).2 = .ok output) ↔
      ¬GivesNull host c ∧ ¬((∃ p, Performs host c seconds p) ∧ TooLong seconds)) ∧
    ∀ output, (invoke host c).2 = .ok output → Faithful host c seconds output := by
  have reply : Reply host c seconds (invoke host c).2 := invoke_reply counts fits
  constructor
  · generalize (invoke host c).2 = outcome at reply
    cases reply with
    | null given => exact iff_of_false nofun fun able => able.1 given
    | tooLong performs long => exact iff_of_false nofun fun able => able.2 ⟨⟨_, performs⟩, long⟩
    | unstarted clean filled none =>
        exact iff_of_true ⟨_, rfl⟩ ⟨clean, fun ⟨⟨p, performs⟩, _⟩ => none p performs⟩
    | ended performs waits ends => exact iff_of_true ⟨_, rfl⟩ (able_of_waits performs waits)
    | late performs waits never filled =>
        exact iff_of_true ⟨_, rfl⟩ (able_of_waits performs waits)
  · intro output told
    rw [told] at reply
    exact reply.faithful

/-- A host with one program, which does nothing but fail. -/
def failingHost : Host where
  tree :=
    [(["usr"], .directory), (["usr", "bin"], .directory),
      (["usr", "bin", "false"], .file [127, 69, 76, 70, 2, 1, 1] true), (["work"], .directory)]
  cwd := ["work"]
  env := []
  account? := none
  machine := ⟨holdsCode, fun _ _ _ tree => (⟨[], some ⟨1, 1⟩, some 1⟩, tree)⟩
  room := .usual

/-- A call of that program, which may take a second and a half. -/
def failingCall (arguments : List String) : Call :=
  ⟨"/usr/bin/false", arguments, .ofText "/work", 1500⟩

theorem failing_call_fits : secondsOf 1500 = some (.ofRatio false 3 2) := by decide +kernel

theorem failing_call_waits : waitFor (.ofRatio false 3 2) = .ok 1500 :=
  Outcome.ok_of_to_option (by decide +kernel)

theorem failing_call_performs :
    Performs failingHost (failingCall ["-p"]) (.ofRatio false 3 2) ⟨[], some ⟨1, 1⟩, some 1⟩ := by
  have accepted : normalize failingHost ["/usr/bin/false", "-p"] = .ok ["/usr/bin/false", "-p"] :=
    Outcome.ok_of_to_option (by decide +kernel)
  have starts : spawn failingHost (linterOptions (.ofText "/work") (.ofRatio false 3 2))
      "/usr/bin/false" ["-p"] =
      .ok ⟨⟨["usr", "bin", "false"], ["usr", "bin", "false"], "/usr/bin/false", ["-p"]⟩,
        ["work"], []⟩ :=
    Outcome.ok_of_to_option (by decide +kernel)
  exact ⟨_, _, accepted, starts, rfl⟩

theorem text_of_nothing : textOf [] = "" := by decide +kernel

/-- A program that fails has completed all the same, and its return code is kept. -/
theorem failing_exit_kept :
    0 ≤ (failingCall ["-p"]).timeLimit ∧
      secondsOf (failingCall ["-p"]).timeLimit = some (.ofRatio false 3 2) ∧
      ∃ output, (invoke failingHost (failingCall ["-p"])).2 = .ok output ∧
        output = ⟨"", "", some 1, none⟩ := by
  have counts : 0 ≤ (failingCall ["-p"]).timeLimit := by decide
  have fits : secondsOf (failingCall ["-p"]).timeLimit = some (.ofRatio false 3 2) :=
    failing_call_fits
  obtain ⟨reported, faithful⟩ :=
    @invocation_reported_iff failingHost (failingCall ["-p"]) (.ofRatio false 3 2) counts fits
  have finishes : Finishes ⟨[], some ⟨1, 1⟩, some 1⟩ 1500 ⟨1, 1⟩ := ⟨rfl, by decide⟩
  have closes : Closes ⟨[], some ⟨1, 1⟩, some 1⟩ 1500 := ⟨1, rfl, by decide⟩
  obtain ⟨output, told⟩ := reported.mpr (able_of_waits failing_call_performs failing_call_waits)
  have kept := (faithful output told).ended _ _ _ failing_call_performs failing_call_waits finishes
    closes
  have silent (channel : Channel) : textOf (Performance.all ⟨[], some ⟨1, 1⟩, some 1⟩ channel) = "" :=
    text_of_nothing
  rw [silent, silent] at kept
  exact ⟨counts, fits, output, told, kept⟩

/-- What comes of the call on a host where the program does something else. -/
def replaced (p : Performance) : Except InvocationFault ToolOutput :=
  (invoke { failingHost with machine := ⟨holdsCode, fun _ _ _ tree => (p, tree)⟩ }
    (failingCall ["-p"])).2

/-- An argument with a null character is not reported; the call fails over it. A program that closes its
outputs and goes on is given up without what it had written, and one that has long come to its end, but
has left somebody behind who can still write, is given up as well. -/
theorem null_in_argument_escapes :
    0 ≤ (failingCall ["a\x00b"]).timeLimit ∧
      secondsOf (failingCall ["a\x00b"]).timeLimit = some (.ofRatio false 3 2) ∧
      (invoke failingHost (failingCall ["a\x00b"])).2 =
        .error (.command (.spawn .nullCharacter)) ∧
      (replaced ⟨[⟨1, .out, Text.Utf8.encode "found"⟩], some ⟨5000, 0⟩, some 2⟩).toOption =
        some ⟨"", "", none, some "Command '/usr/bin/false' timed out after 1.5s"⟩ ∧
      (replaced ⟨[⟨1, .out, Text.Utf8.encode "found"⟩], some ⟨2, 0⟩, some 5000⟩).toOption =
        some ⟨"found", "", none, some "Command '/usr/bin/false' timed out after 1.5s"⟩ := by
  have counts : 0 ≤ (failingCall ["a\x00b"]).timeLimit := by decide
  refine ⟨counts, failing_call_fits, invoke_of_null counts failing_call_fits ?_, ?_, ?_⟩
  · exact ⟨"/usr/bin/false", Outcome.ok_of_to_option (by decide +kernel), by decide +kernel⟩
  · decide +kernel
  · decide +kernel

end Command

end PlaybookLint
