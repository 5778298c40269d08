import PlaybookLint.Proofs.Accounting
import PlaybookLint.Proofs.TimeLimit
import PlaybookLint.VersionCheck

/-!
Sessions. A linter with the default table is given one task after the other, in surroundings that may
change with everything that a task does. Whatever was done before, a task returns, except where it
ends for one of the reasons listed here: the path of a file cannot be resolved, the search of the
gate breaks off, or the program would have to be called without a time limit.
-/

namespace PlaybookLint

namespace Linter

/-! ### Requests that do not return -/

/-- The reasons for which a request ends without a result. -/
inductive Stuck (l : Linter) (r : Request) : Prop
  | gate {broken : Pattern.BrokenGroup}
      (broke : Gate.isBlacklisted r.file.text r.configuration = .error broken)
  | endless {root : Option Path}
      (passed : Gate.isBlacklisted r.file.text r.configuration = .ok false)
      (rooted : RootOf l r root) (unlimited : r.configuration.timeLimit? = none)

variable {l : Linter} {r : Request}

/-- The default table has no search that breaks off. -/
theorem default_search_unbroken {text : String} {broken : Pattern.BrokenGroup} :
    ¬SearchBreaks Failure.Table.default text broken := by
  rintro ⟨index, row, settles, broke⟩
  obtain ⟨captured, found⟩ :=
    Failure.Table.default_find_ok (List.mem_of_getElem? settles.place) text
  rw [found] at broke
  cases broke

/-- Without a time limit, an attempt that knows the root is over before the call. -/
theorem attempt_unlimited {calls : List Call} {told : List String}
    {outcome : Except LintFault (List Diagnostic)} (way : Attempted l r calls told outcome)
    {root : Option Path} (rooted : RootOf l r root)
    (unlimited : r.configuration.timeLimit? = none) : outcome = .error .endless := by
  cases way with
  | @unprepared fault failed =>
      cases failed with
      | rootless needed answer =>
          have unanswered := root_for_unanswered needed answer
          rw [rooted.root_for] at unanswered
          cases unanswered
      | endless _ _ => rfl
  | troubled prepared failed =>
      have limited := prepared.timeLimit
      rw [unlimited] at limited
      cases limited
  | read prepared came reading =>
      have limited := prepared.timeLimit
      rw [unlimited] at limited
      cases limited

theorem stuck_request_ends (stuck : Stuck l r) :
    ∃ fault, (l.lintRequest r).outcome = .error fault := by
  cases stuck with
  | gate broke => exact ⟨_, (lint_request_gate_broken broke).2.2⟩
  | endless passed rooted unlimited =>
      obtain ⟨told, attempted, way, guarded⟩ := lint_request_attempted (l := l) passed
      have ended := attempt_unlimited way rooted unlimited
      rw [ended] at guarded
      exact ⟨.endless, guarded.escapes rfl⟩

theorem ended_request_stuck (table : l.table = .default) (invoker : InvokerExpected l.invoker)
    {fault : LintFault} (ended : (l.lintRequest r).outcome = .error fault) : Stuck l r := by
  cases gate : Gate.isBlacklisted r.file.text r.configuration with
  | error broken => exact .gate gate
  | ok excluded =>
      cases excluded with
      | true =>
          rw [(lint_request_blacklisted gate).2.2] at ended
          cases ended
      | false =>
          obtain ⟨told, attempted, way, guarded⟩ := lint_request_attempted (l := l) gate
          rw [ended] at guarded
          obtain ⟨same, unexpected⟩ := guarded.fault_eq
          rw [same] at way
          have handlers : HandlersExpected l.table r.target := by
            rw [table]
            exact default_handlers_expected r.target
          rcases way.unexpected handlers invoker unexpected with
            ⟨unlimited, root, rooted⟩ | ⟨_, output, broken, _, _, breaks, _⟩
          · exact .endless gate rooted unlimited
          · rw [table] at breaks
            exact absurd breaks default_search_unbroken

/-! ### Files -/

theorem request_of_resolved {host : Host} {file found : Path} (c : Configuration)
    (resolved : host.resolve file = .ok found) :
    Request.ofFile host file none c none = .ok ⟨found, found.parent, c, none⟩ := by
  simp only [Request.ofFile, Request.checkFile, resolved]
  rfl

theorem request_of_unresolved {host : Host} {file : Path} {fault : Files.ResolveFault}
    (c : Configuration) (refused : host.resolve file = .error fault) :
    ∃ refusal, Request.ofFile host file none c none = .error refusal := by
  cases fault with
  | nullCharacter =>
      simp only [Request.ofFile, Request.checkFile, refused]
      exact ⟨_, rfl⟩
  | linkLoop told =>
      simp only [Request.ofFile, Request.checkFile, refused]
      exact ⟨_, rfl⟩
  | noDirectory =>
      simp only [Request.ofFile, Request.checkFile, refused]
      exact ⟨_, rfl⟩

theorem lint_resolved {host : Host} {file found : Path} {given : Option Configuration}
    (resolved : host.resolve file = .ok found) :
    l.lint host file given =
      l.lintRequest ⟨found, found.parent, given.getD l.configuration, none⟩ := by
  rw [lint, request_of_resolved _ resolved]
  exact Run.of_except_ok_bind _ _

theorem lint_unresolved {host : Host} {file : Path} {given : Option Configuration}
    {fault : Files.ResolveFault} (refused : host.resolve file = .error fault) :
    ∃ fault, (l.lint host file given).outcome = .error fault := by
  obtain ⟨refusal, made⟩ := request_of_unresolved (given.getD l.configuration) refused
  refine ⟨.request refusal, ?_⟩
  rw [lint, made]
  rfl

/-! ### Checks of the release -/

theorem judge_returns (output : ToolOutput) :
    ∃ report, (VersionCheck.judge output).outcome = .ok report := by
  cases reason : output.reason? with
  | some reason =>
      simp only [VersionCheck.judge, reason]
      exact ⟨_, rfl⟩
  | none =>
      cases marked : Text.occurs VersionCheck.marker.toList output.stdout.toList with
      | true =>
          simp only [VersionCheck.judge, reason, marked, if_true]
          exact ⟨_, rfl⟩
      | false =>
          simp only [VersionCheck.judge, reason, marked, Bool.false_eq_true, if_false]
          exact ⟨_, rfl⟩

theorem check_version_unlimited (directory : Path)
    (unlimited : l.configuration.timeLimit? = none) :
    (l.checkVersion directory).outcome = .error .endless := by
  have ended : (VersionCheck.attempt l directory).outcome = .error .endless := by
    simp only [VersionCheck.attempt, callFor, unlimited, Run.of_except_error_bind]
    rfl
  rw [checkVersion, Run.outcome_recover_error ended]
  rfl

theorem check_version_returns (directory : Path) {limit : Int}
    (limited : l.configuration.timeLimit? = some limit) (invoker : InvokerExpected l.invoker) :
    ∃ report, (l.checkVersion directory).outcome = .ok report := by
  let call : Call := ⟨l.configuration.executablePath, [VersionCheck.listTags], directory, limit⟩
  have made : VersionCheck.attempt l directory =
      (l.invoker.run call).mapFault .trouble >>= VersionCheck.judge := by
    simp only [VersionCheck.attempt, callFor, limited, Run.of_except_ok_bind]
    rfl
  cases brought : (l.invoker call).2 with
  | ok output =>
      have came : ((l.invoker.run call).mapFault LintFault.trouble).outcome = .ok output :=
        congrArg (Except.mapError LintFault.trouble) brought
      obtain ⟨report, judged⟩ := judge_returns output
      have done : (VersionCheck.attempt l directory).outcome = .ok report := by
        rw [made, Run.outcome_bind_ok came, judged]
      rw [checkVersion, Run.recover_ok done]
      exact ⟨report, done⟩
  | error t =>
      have failed : ((l.invoker.run call).mapFault LintFault.trouble).outcome =
          .error (.trouble t) :=
        congrArg (Except.mapError LintFault.trouble) brought
      have ended : (VersionCheck.attempt l directory).outcome = .error (.trouble t) := by
        rw [made, Run.bind_error failed]
      rw [checkVersion, Run.outcome_recover_error ended, invoker call t brought, if_pos rfl]
      exact ⟨_, rfl⟩

theorem activate_here {host : Host} {directory : Path} (here : host.cwdPath = .ok directory) :
    l.activate host = l.checkVersion directory := by
  rw [activate, here]

theorem activate_gone {host : Host} {gone : Files.ResolveFault} (absent : host.cwdPath = .error gone) :
    (l.activate host).outcome = .ok ⟨.unavailable, gone.message⟩ := by
  rw [activate, absent]
  rfl

/-! ### Sessions -/

/-- What a linter can be asked to do. -/
inductive Task where
  | lint (file : Path) (given : Option Configuration)
  | request (r : Request)
  | checkVersion

/-- What comes back when a task returns. -/
def Task.Result : Task → Type
  | .lint _ _ | .request _ => List Diagnostic
  | .checkVersion => VersionReport

/-- The surroundings of a linter: in every state there are a host, a program and roots of projects,
and what a task does leads on to the next state. -/
structure Surroundings (σ : Type) where
  host : σ → Host
  invoker : σ → Invoker
  projectRoot : σ → Path → Except AccessFault Path
  after : σ → List Event → σ

namespace Surroundings

variable {σ : Type}

/-- The linter with the default table in a state of its surroundings. -/
def linter (w : Surroundings σ) (c : Configuration) (state : σ) : Linter :=
  ⟨c, .default, w.invoker state, w.projectRoot state⟩

/-- The run of a task in a state. -/
def perform (w : Surroundings σ) (c : Configuration) (state : σ) :
    (t : Task) → Run LintFault t.Result
  | .lint file given => (w.linter c state).lint (w.host state) file given
  | .request r => (w.linter c state).lintRequest r
  | .checkVersion => (w.linter c state).activate (w.host state)

/-- The state after tasks that were performed one after the other. -/
def reached (w : Surroundings σ) (c : Configuration) (start : σ) (earlier : List Task) : σ :=
  earlier.foldl (fun state t => w.after state (w.perform c state t).events) start

/-- The reasons for which a task does not return in a state. -/
inductive Stuck (w : Surroundings σ) (c : Configuration) (state : σ) : Task → Prop
  | unresolved {file : Path} {given : Option Configuration} {fault : Files.ResolveFault}
      (refused : (w.host state).resolve file = .error fault) : w.Stuck c state (.lint file given)
  | lint {file found : Path} {given : Option Configuration}
      (resolved : (w.host state).resolve file = .ok found)
      (stuck : Linter.Stuck (w.linter c state) ⟨found, found.parent, given.getD c, none⟩) :
      w.Stuck c state (.lint file given)
  | request {r : Request} (stuck : Linter.Stuck (w.linter c state) r) :
      w.Stuck c state (.request r)
  | checkVersion {directory : Path} (here : (w.host state).cwdPath = .ok directory)
      (unlimited : c.timeLimit? = none) : w.Stuck c state .checkVersion

variable {w : Surroundings σ} {c : Configuration} {state : σ} {t : Task}

theorem stuck_task_ends (stuck : w.Stuck c state t) :
    ∃ fault, (w.perform c state t).outcome = .error fault := by
  cases stuck with
  | unresolved refused => exact lint_unresolved refused
  | @lint file found given resolved stuck =>
      obtain ⟨fault, ended⟩ := stuck_request_ends stuck
      have same : w.perform c state (.lint file given) = _ := lint_resolved resolved
      rw [same]
      exact ⟨fault, ended⟩
  | request stuck => exact stuck_request_ends stuck
  | checkVersion here unlimited =>
      have same : w.perform c state .checkVersion = _ := activate_here here
      rw [same]
      exact ⟨_, check_version_unlimited _ unlimited⟩

theorem ended_task_stuck (invoker : InvokerExpected (w.invoker state)) {fault : LintFault}
    (ended : (w.perform c state t).outcome = .error fault) : w.Stuck c state t := by
  cases t with
  | request r => exact .request (ended_request_stuck rfl invoker ended)
  | lint file given =>
      cases resolved : (w.host state).resolve file with
      | error fault => exact .unresolved resolved
      | ok found =>
          have same : w.perform c state (.lint file given) = _ := lint_resolved resolved
          rw [same] at ended
          exact .lint resolved (ended_request_stuck rfl invoker ended)
  | checkVersion =>
      cases here : (w.host state).cwdPath with
      | error gone =>
          have came : (w.perform c state .checkVersion).outcome = _ := activate_gone here
          rw [came] at ended
          cases ended
      | ok directory =>
          have same : w.perform c state .checkVersion = _ := activate_here here
          cases limited : c.timeLimit? with
          | none => exact .checkVersion here limited
          | some limit =>
              obtain ⟨report, returned⟩ :=
                check_version_returns (l := w.linter c state) directory limited invoker
              rw [same, returned] at ended
              cases ended

/-- Whatever tasks came before, a task returns exactly if it is not stuck, as long as the program runs
into no trouble but the expected. -/
theorem session_returns_iff (w : Surroundings σ) (c : Configuration)
    (invoker : ∀ state, InvokerExpected (w.invoker state)) (start : σ) (earlier : List Task)
    (t : Task) :
    (∃ result, (w.perform c (w.reached c start earlier) t).outcome = .ok result) ↔
      ¬w.Stuck c (w.reached c start earlier) t := by
  constructor
  · rintro ⟨result, returned⟩ stuck
    obtain ⟨fault, ended⟩ := stuck_task_ends stuck
    rw [returned] at ended
    cases ended
  · intro free
    cases outcome : (w.perform c (w.reached c start earlier) t).outcome with
    | ok result => exact ⟨result, rfl⟩
    | error fault => exact absurd (ended_task_stuck (invoker _) outcome) free

/-- Surroundings that never change. -/
def steady : Surroundings Unit where
  host _ := .plain [] [] []
  invoker _ := puzzled.invoker
  projectRoot _ file := .ok file.parent
  after _ _ := ()

/-- The configuration whose timeout is infinite. -/
def endless : Configuration := { Configuration.default with timeout := .infinite false }

theorem endless_accepted :
    Configuration.ofEntries .usual [("timeout", .text "inf")] = .ok endless := rfl

/-- An infinite timeout is accepted, and then a request does not return. -/
theorem endless_request_stuck :
    Configuration.ofEntries .usual [("timeout", .text "inf")] = .ok endless ∧
      (∀ state, InvokerExpected (steady.invoker state)) ∧
      ¬∃ result, (steady.perform endless (steady.reached endless () [.checkVersion])
        (.request ⟨.ofText "/work/site.yml", .ofText "/work", endless, none⟩)).outcome =
          .ok result := by
  have invoker : ∀ state, InvokerExpected (steady.invoker state) :=
    fun _ => puzzled_invoker_expected
  have unlimited : endless.timeLimit? = none :=
    (Configuration.accepted_unlimited_iff endless_accepted).mpr rfl
  refine ⟨endless_accepted, invoker, ?_⟩
  intro returned
  have free := (session_returns_iff steady endless invoker () [.checkVersion] _).mp returned
  exact free (.request (.endless rfl (.unwanted rfl rfl) unlimited))

end Surroundings

end Linter

end PlaybookLint
