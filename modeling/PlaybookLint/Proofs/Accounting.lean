import Mathlib
import PlaybookLint.Proofs.Classification
import PlaybookLint.Proofs.Interpretation

/-!
The account of one lint request. What a run calls, what the user is notified of and what comes out
hang together: the program is called at most once, and then as the request says; what it leaves
behind is read in one of the known ways; and a fault ends in a notice or, if nobody expects it, ends
the run.
-/

namespace PlaybookLint

/-- The root of the project has to be found before the request can be made: the project's own
settings are wanted, and the request does not say where they are. -/
def Request.NeedsRoot (r : Request) : Prop :=
  r.configuration.useProjectConfig = true ∧ r.projectRoot = none

namespace Linter

/-! ### The call -/

/-- The root of the project that a request is made with: the one that it names, or else the one that
is found, if it is needed. -/
inductive RootOf (l : Linter) (r : Request) : Option Path → Prop
  | named {root : Path} (given : r.projectRoot = some root) : RootOf l r (some root)
  | found {root : Path} (needed : r.NeedsRoot) (answer : l.projectRoot r.file = .ok root) :
      RootOf l r (some root)
  | unwanted (absent : r.projectRoot = none) (other : r.configuration.useProjectConfig = false) :
      RootOf l r none

/-- The call of the program that a request asks for. -/
structure Prepared (l : Linter) (r : Request) (call : Call) : Prop where
  executable : call.executable = r.configuration.executablePath
  arguments : ∃ root, RootOf l r root ∧
    Arguments.build r.configuration r.file.text (root.map Path.text) = .ok call.arguments
  directory : call.directory = r.directory
  timeLimit : r.configuration.timeLimit? = some call.timeLimit

/-- What the preparation of a call comes to. -/
inductive Preparation (l : Linter) (r : Request) : Except LintFault Call → Prop
  | made {call : Call} (prepared : Prepared l r call) : Preparation l r (.ok call)
  | rootless {fault : AccessFault} (needed : r.NeedsRoot)
      (answer : l.projectRoot r.file = .error fault) : Preparation l r (.error (.access fault))
  | endless {root : Option Path} (rooted : RootOf l r root)
      (unlimited : r.configuration.timeLimit? = none) : Preparation l r (.error .endless)

theorem root_for_needed (l : Linter) {r : Request} (needed : r.NeedsRoot) :
    l.rootFor r = (l.projectRoot r.file).map some := by
  simp only [rootFor, needed.1, needed.2, Option.isNone_none, Bool.and_self, if_true]

theorem root_for_named (l : Linter) {r : Request} {root : Path}
    (given : r.projectRoot = some root) : l.rootFor r = .ok (some root) := by
  simp only [rootFor, given, Option.isNone_some, Bool.and_false, Bool.false_eq_true, if_false]

theorem root_for_unwanted (l : Linter) {r : Request} (absent : r.projectRoot = none)
    (other : r.configuration.useProjectConfig = false) : l.rootFor r = .ok none := by
  simp only [rootFor, absent, other, Bool.false_and, Bool.false_eq_true, if_false]

theorem RootOf.root_for {l : Linter} {r : Request} {root : Option Path} (rooted : RootOf l r root) :
    l.rootFor r = .ok root := by
  cases rooted with
  | named given => exact root_for_named l given
  | found needed answer =>
      rw [root_for_needed l needed, answer]
      rfl
  | unwanted absent other => exact root_for_unwanted l absent other

theorem root_for_unanswered {l : Linter} {r : Request} {fault : AccessFault} (needed : r.NeedsRoot)
    (answer : l.projectRoot r.file = .error fault) : l.rootFor r = .error fault := by
  rw [root_for_needed l needed, answer]
  rfl

/-- The root is found, or it is needed and cannot be found. -/
theorem root_for_cases (l : Linter) (r : Request) :
    (∃ root, RootOf l r root) ∨ ∃ fault, r.NeedsRoot ∧ l.projectRoot r.file = .error fault := by
  cases given : r.projectRoot with
  | some root => exact .inl ⟨some root, .named given⟩
  | none =>
      cases wanted : r.configuration.useProjectConfig with
      | false => exact .inl ⟨none, .unwanted given wanted⟩
      | true =>
          cases answer : l.projectRoot r.file with
          | error fault => exact .inr ⟨fault, ⟨wanted, given⟩, rfl⟩
          | ok root => exact .inl ⟨some root, .found ⟨wanted, given⟩ answer⟩

/-- With the root of a request there is an argument list. -/
theorem arguments_of_root {l : Linter} {r : Request} {root : Option Path}
    (rooted : RootOf l r root) :
    ∃ arguments, Arguments.build r.configuration r.file.text (root.map Path.text) =
      .ok arguments := by
  cases root with
  | some root =>
      cases wanted : r.configuration.useProjectConfig with
      | false => exact ⟨_, by simp only [Arguments.build, Arguments.selection, wanted]; rfl⟩
      | true => exact ⟨_, by simp only [Arguments.build, Arguments.selection, wanted]; rfl⟩
  | none =>
      cases rooted with
      | unwanted absent other =>
          exact ⟨_, by simp only [Arguments.build, Arguments.selection, other]; rfl⟩

theorem call_for_request_preparation (l : Linter) (r : Request) :
    Preparation l r (l.callForRequest r) := by
  rcases root_for_cases l r with ⟨root, rooted⟩ | ⟨fault, needed, answer⟩
  · obtain ⟨arguments, built⟩ := arguments_of_root rooted
    have reached : l.callForRequest r = callFor r.configuration arguments r.directory := by
      simp only [callForRequest, rooted.root_for, Except.mapError, bind, Except.bind, built]
    rw [reached]
    cases limited : r.configuration.timeLimit? with
    | none =>
        simp only [callFor, limited]
        exact .endless rooted limited
    | some limit =>
        simp only [callFor, limited]
        exact .made ⟨rfl, ⟨root, rooted, built⟩, rfl, limited⟩
  · have refused : l.callForRequest r = .error (.access fault) := by
      simp only [callForRequest, root_for_unanswered needed answer, Except.mapError, bind,
        Except.bind]
    rw [refused]
    exact .rootless needed answer

/-! ### The attempt -/

/-- The ways in which an attempt at a request goes: its calls, the texts that the user is told of as
errors, and the outcome. -/
inductive Attempted (l : Linter) (r : Request) :
    List Call → List String → Except LintFault (List Diagnostic) → Prop
  /-- There is nothing to call the program with. -/
  | unprepared {fault : LintFault} (failed : Preparation l r (.error fault)) :
      Attempted l r [] [] (.error fault)
  /-- The call brings back nothing. -/
  | troubled {call : Call} {t : Trouble} (prepared : Prepared l r call)
      (failed : (l.invoker call).2 = .error t) : Attempted l r [call] [] (.error (.trouble t))
  /-- The call brings back an output, which is read. -/
  | read {call : Call} {output : ToolOutput} {told : List String}
      {outcome : Except LintFault (List Diagnostic)} (prepared : Prepared l r call)
      (came : (l.invoker call).2 = .ok output)
      (reading : Reading l.table r.target output told outcome) :
      Attempted l r [call] told outcome

/-- Every attempt goes in one of the ways above. -/
theorem attempt_attempted (l : Linter) (r : Request) :
    ∃ told, (l.attempt r).notices = told.map escalation ∧
      Attempted l r (l.attempt r).calls told (l.attempt r).outcome := by
  have preparation := call_for_request_preparation l r
  rw [attempt]
  revert preparation
  generalize l.callForRequest r = prepared
  intro preparation
  cases prepared with
  | error fault =>
      rw [Run.of_except_error_bind]
      exact ⟨[], rfl, .unprepared preparation⟩
  | ok call =>
      rw [Run.of_except_ok_bind]
      obtain ⟨prepared⟩ := preparation
      have called : ((l.invoker.run call).mapFault LintFault.trouble).calls = [call] :=
        calls_invoker_run l.invoker call
      have silent : ((l.invoker.run call).mapFault LintFault.trouble).notices = [] :=
        notices_invoker_run l.invoker call
      cases brought : (l.invoker call).2 with
      | error t =>
          have ended : ((l.invoker.run call).mapFault LintFault.trouble).outcome =
              .error (.trouble t) :=
            congrArg (Except.mapError LintFault.trouble) brought
          rw [Run.bind_error ended]
          refine ⟨[], silent, ?_⟩
          have way := Attempted.troubled prepared brought
          rw [← called] at way
          exact way
      | ok output =>
          have came : ((l.invoker.run call).mapFault LintFault.trouble).outcome = .ok output :=
            congrArg (Except.mapError LintFault.trouble) brought
          rw [Run.calls_bind_ok came, Run.notices_bind_ok came, Run.outcome_bind_ok came, called,
            silent, calls_interpret]
          obtain ⟨told, notices, reading⟩ := interpret_reading l.table r.target output
          exact ⟨told, notices, .read prepared brought reading⟩

/-! ### The guard -/

/-- What becomes of an attempt in the end: `told` are the texts that the user was told of as errors
before, then come the attempt's outcome, the notices of the whole and the outcome of the whole. -/
inductive Guarded (told : List String) : Except LintFault (List Diagnostic) → List Notice →
    Except LintFault (List Diagnostic) → Prop
  | passed {found : List Diagnostic} : Guarded told (.ok found) (told.map escalation) (.ok found)
  | caught {fault : LintFault} (expected : fault.isExpected = true) :
      Guarded told (.error fault) ((told ++ [fault.message]).map escalation) (.ok [])
  | escaped {fault : LintFault} (unexpected : fault.isExpected = false) :
      Guarded told (.error fault) (told.map escalation) (.error fault)

/-- What is done about a fault of an attempt. -/
def afterFault (r : Request) (fault : LintFault) : Run LintFault (List Diagnostic) :=
  if fault.isExpected then do
    Run.log [.debug .linter s!"lint of {r.file.text} failed"]
    Run.notify (escalation fault.message)
    return []
  else Run.fail fault

theorem calls_after_fault (r : Request) (fault : LintFault) : (afterFault r fault).calls = [] := by
  cases expected : fault.isExpected with
  | false =>
      simp only [afterFault, expected, Bool.false_eq_true, if_false]
      rfl
  | true =>
      simp only [afterFault, expected, if_true]
      rfl

theorem after_fault_expected (r : Request) {fault : LintFault} (expected : fault.isExpected = true) :
    (afterFault r fault).notices = [escalation fault.message] ∧
      (afterFault r fault).outcome = .ok [] := by
  simp only [afterFault, expected, if_true]
  exact ⟨rfl, rfl⟩

theorem after_fault_unexpected (r : Request) {fault : LintFault}
    (unexpected : fault.isExpected = false) : afterFault r fault = Run.fail fault := by
  simp only [afterFault, unexpected, Bool.false_eq_true, if_false]

variable {l : Linter} {r : Request}

theorem lint_request_blacklisted
    (gate : Gate.isBlacklisted r.file.text r.configuration = .ok true) :
    (l.lintRequest r).calls = [] ∧ (l.lintRequest r).notices = [] ∧
      (l.lintRequest r).outcome = .ok [] := by
  simp only [lintRequest, gate]
  exact ⟨rfl, rfl, rfl⟩

theorem lint_request_gate_broken {fault : Pattern.BrokenGroup}
    (gate : Gate.isBlacklisted r.file.text r.configuration = .error fault) :
    (l.lintRequest r).calls = [] ∧ (l.lintRequest r).notices = [] ∧
      (l.lintRequest r).outcome = .error (.group fault) := by
  simp only [lintRequest, gate]
  exact ⟨rfl, rfl, rfl⟩

theorem lint_request_let_through
    (gate : Gate.isBlacklisted r.file.text r.configuration = .ok false) :
    l.lintRequest r = (l.attempt r).recover (afterFault r) := by
  simp only [lintRequest, gate]
  rfl

/-- The account of a request that passes the gate. -/
theorem lint_request_attempted
    (gate : Gate.isBlacklisted r.file.text r.configuration = .ok false) :
    ∃ told attempted, Attempted l r (l.lintRequest r).calls told attempted ∧
      Guarded told attempted (l.lintRequest r).notices (l.lintRequest r).outcome := by
  obtain ⟨told, notices, way⟩ := attempt_attempted l r
  rw [lint_request_let_through gate]
  cases ended : (l.attempt r).outcome with
  | ok found =>
      rw [Run.recover_ok ended, notices, ended]
      rw [ended] at way
      exact ⟨told, .ok found, way, .passed⟩
  | error fault =>
      rw [ended] at way
      refine ⟨told, .error fault, ?_, ?_⟩
      · rw [Run.calls_recover_error ended, calls_after_fault, List.append_nil]
        exact way
      · rw [Run.notices_recover_error ended, Run.outcome_recover_error ended, notices]
        cases expected : fault.isExpected with
        | true =>
            obtain ⟨notice, outcome⟩ := after_fault_expected r expected
            have both : told.map escalation ++ [escalation fault.message] =
                (told ++ [fault.message]).map escalation := by
              rw [List.map_append, List.map_singleton]
            rw [notice, outcome, both]
            exact .caught expected
        | false =>
            rw [after_fault_unexpected r expected]
            have silent : (Run.fail fault : Run LintFault (List Diagnostic)).notices = [] := rfl
            rw [silent, List.append_nil]
            exact .escaped expected

/-! ### Faults that end a run -/

/-- The search of a row broke off over a text that no row before it recognises. -/
def SearchBreaks (table : Failure.Table) (text : String) (fault : Pattern.BrokenGroup) : Prop :=
  ∃ index row, table.Settles text index row ∧ row.find text = .error fault

/-- What the rows of a table capture gives their handlers no trouble that a run does not survive. -/
def HandlersExpected (table : Failure.Table) (target : Target) : Prop :=
  ∀ row ∈ table, ∀ handler, row.handler = some handler →
    ∀ text groups fault, row.find text = .ok (some groups) →
      handler.diagnostic target groups text = .error fault →
        (LintFault.handler fault).isExpected = true

/-- The program runs into no trouble that a run does not survive. -/
def InvokerExpected (invoker : Invoker) : Prop :=
  ∀ call t, (invoker call).2 = .error t → (LintFault.trouble t).isExpected = true

theorem yaml_handler_expected {target : Target} {text : List Char} {fault : Failure.HandlerFault}
    (failed : Failure.Handler.yamlDiagnostic target text = .error fault) :
    (LintFault.handler fault).isExpected = true := by
  by_cases long : Failure.PlaceTooLong text
  · obtain ⟨refusal, refused⟩ := Failure.yaml_diagnostic_too_long target long
    rw [refused] at failed
    cases failed
    rfl
  · obtain ⟨found, made⟩ := Failure.yaml_diagnostic_readable target long
    rw [made] at failed
    cases failed

theorem default_handlers_expected (target : Target) :
    HandlersExpected Failure.Table.default target := by
  intro row member handler handles text groups fault captured failed
  simp only [Failure.Table.default, List.mem_cons, List.not_mem_nil, or_false] at member
  rcases member with rfl | rfl | rfl | rfl | rfl | rfl | rfl
  · cases handles
    have found : Failure.findMissingFile text = some groups := Except.ok.inj captured
    simp only [Failure.findMissingFile, Option.map_eq_some_iff] at found
    obtain ⟨path, _, same⟩ := found
    subst same
    cases failed
  · cases handles
    cases failed
  · cases handles
    exact yaml_handler_expected failed
  · cases handles
    cases failed
  · cases handles
    cases failed
  · cases handles
    cases failed
  · cases handles

/-- An unexpected fault of a classification comes from a search, if the handlers have none. -/
theorem classify_unexpected {table : Failure.Table} {target : Target} {text : String}
    {fault : Failure.HandlerFault} (handlers : HandlersExpected table target)
    (failed : table.classify target text = .error fault)
    (unexpected : (LintFault.handler fault).isExpected = false) :
    ∃ broken, fault = .group broken ∧ SearchBreaks table text broken := by
  have verdict := Failure.Table.classify_verdict table target text
  rw [failed] at verdict
  generalize outcome : (Except.error fault : Except Failure.HandlerFault Failure.Classification) =
    came at verdict
  cases verdict with
  | blank blank => cases outcome
  | unknown spoken passed => cases outcome
  | benign spoken settles captured harmless => cases outcome
  | @broken index row broken spoken settles broke =>
      exact ⟨broken, Except.error.inj outcome, index, row, settles, broke⟩
  | @handled index row groups handler spoken settles captured handles =>
      cases made : handler.diagnostic target groups text with
      | ok found =>
          rw [made] at outcome
          cases outcome
      | error other =>
          rw [made] at outcome
          have same : fault = other := Except.error.inj outcome
          subst same
          have member : row ∈ table := List.mem_of_getElem? settles.place
          rw [handlers row member handler handles text groups fault captured made] at unexpected
          cases unexpected

/-- If neither handlers nor program run into unexpected trouble, an attempt ends in an unexpected fault
only for want of a time limit, or because a search broke off over the failure text of its output. -/
theorem Attempted.unexpected {calls : List Call} {told : List String} {fault : LintFault}
    (way : Attempted l r calls told (.error fault)) (handlers : HandlersExpected l.table r.target)
    (invoker : InvokerExpected l.invoker) (unexpected : fault.isExpected = false) :
    (r.configuration.timeLimit? = none ∧ ∃ root, RootOf l r root) ∨
      ∃ call output broken, calls = [call] ∧ (l.invoker call).2 = .ok output ∧
        SearchBreaks l.table output.errorText broken ∧ fault = .handler (.group broken) := by
  generalize ended : (Except.error fault : Except LintFault (List Diagnostic)) = outcome at way
  cases way with
  | @unprepared other failed =>
      have same : fault = other := Except.error.inj ended
      subst same
      cases failed with
      | rootless needed answer => cases unexpected
      | endless rooted unlimited => exact .inl ⟨unlimited, _, rooted⟩
  | @troubled call t prepared failed =>
      have same : fault = .trouble t := Except.error.inj ended
      rw [same, invoker call t failed] at unexpected
      cases unexpected
  | @read call output told outcome prepared came reading =>
      subst ended
      rcases reading.fault_cases with ⟨refusal, same⟩ | ⟨inner, failed, same⟩
      · rw [same] at unexpected
        cases unexpected
      · rw [same] at unexpected
        obtain ⟨broken, group, breaks⟩ := classify_unexpected handlers failed unexpected
        rw [group] at same
        exact .inr ⟨call, output, broken, rfl, came, breaks, same⟩

/-! ### Where the root comes from -/

theorem root_for_resolver (other : Path → Except AccessFault Path)
    (same : r.NeedsRoot → other r.file = l.projectRoot r.file) :
    rootFor { l with projectRoot := other } r = l.rootFor r := by
  rcases root_for_cases l r with ⟨root, rooted⟩ | ⟨fault, needed, answer⟩
  · have likewise : RootOf { l with projectRoot := other } r root := by
      cases rooted with
      | named given => exact .named given
      | found needed answer => exact .found needed ((same needed).trans answer)
      | unwanted absent other => exact .unwanted absent other
    rw [rooted.root_for, likewise.root_for]
  · rw [root_for_unanswered needed answer, root_for_unanswered needed ((same needed).trans answer)]

/-- Of all that the finding of roots could say, a run uses the answer for the file of the request,
and that only if the request passes the gate and needs it. -/
theorem lint_request_resolver (other : Path → Except AccessFault Path)
    (same : Gate.isBlacklisted r.file.text r.configuration = .ok false → r.NeedsRoot →
      other r.file = l.projectRoot r.file) :
    lintRequest { l with projectRoot := other } r = l.lintRequest r := by
  cases gate : Gate.isBlacklisted r.file.text r.configuration with
  | error fault => simp only [lintRequest, gate]
  | ok excluded =>
      cases excluded with
      | true => simp only [lintRequest, gate]
      | false =>
          have root := root_for_resolver other (same gate)
          simp only [lintRequest, gate, attempt, callForRequest, root]

/-! ### The account as a whole -/

/-- Only an unexpected fault of an attempt ends the run. -/
theorem Guarded.fault_eq {told : List String} {attempted : Except LintFault (List Diagnostic)}
    {notices : List Notice} {fault : LintFault}
    (guarded : Guarded told attempted notices (.error fault)) :
    attempted = .error fault ∧ fault.isExpected = false := by
  cases guarded with
  | escaped unexpected => exact ⟨rfl, unexpected⟩

theorem Guarded.escapes {told : List String} {fault : LintFault} {notices : List Notice}
    {outcome : Except LintFault (List Diagnostic)}
    (guarded : Guarded told (.error fault) notices outcome) (unexpected : fault.isExpected = false) :
    outcome = .error fault := by
  cases guarded with
  | caught expected =>
      rw [expected] at unexpected
      cases unexpected
  | escaped _ => rfl

/-- The account of one lint request. An excluded file leaves no trace. Any other is attempted: the
program is called at most once and as the request says, what it leaves behind is read, and the user
is told of an unknown failure first and of a fault last. Only a search that breaks off, in the gate
or in the table, ends the run, and the roots of projects are asked for only where one is needed. -/
theorem lint_request_accounting (l : Linter) (r : Request) {limit : Int}
    (bounded : r.configuration.timeLimit? = some limit) (handlers : HandlersExpected l.table r.target)
    (invoker : InvokerExpected l.invoker) :
    let run := l.lintRequest r
    let gate := Gate.isBlacklisted r.file.text r.configuration
    (gate = .ok true → run.calls = [] ∧ run.notices = [] ∧ run.outcome = .ok []) ∧
    (∀ broken, gate = .error broken →
      run.calls = [] ∧ run.notices = [] ∧ run.outcome = .error (.group broken)) ∧
    (gate = .ok false →
      ∃ told attempted, Attempted l r run.calls told attempted ∧
        Guarded told attempted run.notices run.outcome ∧
        ∀ fault, run.outcome = .error fault →
          ∃ call output broken, run.calls = [call] ∧ (l.invoker call).2 = .ok output ∧
            SearchBreaks l.table output.errorText broken ∧ fault = .handler (.group broken)) ∧
    ∀ other : Path → Except AccessFault Path,
      (gate = .ok false → r.NeedsRoot → other r.file = l.projectRoot r.file) →
        lintRequest { l with projectRoot := other } r = run := by
  refine ⟨lint_request_blacklisted, fun _ gate => lint_request_gate_broken gate, ?_,
    lint_request_resolver⟩
  intro gate
  obtain ⟨told, attempted, way, guarded⟩ := lint_request_attempted (l := l) gate
  refine ⟨told, attempted, way, guarded, ?_⟩
  intro fault ended
  rw [ended] at guarded
  obtain ⟨same, unexpected⟩ := guarded.fault_eq
  rw [same] at way
  rcases way.unexpected handlers invoker unexpected with ⟨unlimited, _⟩ | broke
  · rw [bounded] at unlimited
    cases unlimited
  · exact broke

/-- A linter whose program fails for a reason that nobody knows, with a finding in its report. -/
def puzzled : Linter where
  configuration := .default
  table := .default
  invoker _ :=
    ([], .ok ⟨"site.yml:2: [E502] All tasks should be named", "KeyError: hosts", some 1, none⟩)
  projectRoot file := .ok file.parent

theorem puzzled_invoker_expected : InvokerExpected puzzled.invoker := by
  intro call t failed
  cases failed

/-- A request that asks for nothing but a file. -/
def plainRequest : Request := ⟨.ofText "/work/site.yml", .ofText "/work", .default, none⟩

theorem puzzled_request_accounted :
    plainRequest.configuration.timeLimit? = some 10000 ∧
      HandlersExpected puzzled.table plainRequest.target ∧ InvokerExpected puzzled.invoker ∧
      ∃ told attempted,
        Attempted puzzled plainRequest (puzzled.lintRequest plainRequest).calls told attempted ∧
        Guarded told attempted (puzzled.lintRequest plainRequest).notices
          (puzzled.lintRequest plainRequest).outcome := by
  have bounded : plainRequest.configuration.timeLimit? = some 10000 := by decide +kernel
  have handlers := default_handlers_expected plainRequest.target
  have account := lint_request_accounting puzzled plainRequest bounded handlers
    puzzled_invoker_expected
  obtain ⟨told, attempted, way, guarded, _⟩ := account.2.2.1 rfl
  exact ⟨bounded, handlers, puzzled_invoker_expected, told, attempted, way, guarded⟩

/-- A pattern whose search notes its group wrongly: the last turn of the repetition, which comes to
nothing, keeps the place that it came to. -/
def wrongTurn : Pattern where
  source := "(?:(/)|a|b)*+"
  groups := 1
  least := 0
  plainFront := false
  root := .both (.loop false .possessive 0 none (.both turn .empty)) .empty
where
  letter (code : Nat) : Pattern.Node := .both (.one (.code false code)) .empty
  turn : Pattern.Node :=
    .either false none (.both (.both (.mark 1 false) (.both (letter 47) (.mark 1 true))) .empty)
      (.either false (some (.code false 97)) (letter 97)
        (.either false (some (.code false 98)) (letter 98) .nothing))

theorem compile_wrong_turn :
    Pattern.compile Room.usual.patterns "(?:(/)|a|b)*+" = .ok wrongTurn := by cbv

/-- The configuration that excludes the files which the pattern finds. -/
def wrongTurnExcluded : Configuration :=
  { Configuration.default with blacklist := "(?:(/)|a|b)*+", exclusion := some wrongTurn }

/-- The configuration is accepted and there is no unexpected trouble, and yet the request comes to no
result: the gate has no answer for its file. -/
theorem wrong_turn_ends_request :
    Configuration.ofEntries .usual [("blacklist", .text "(?:(/)|a|b)*+")] = .ok wrongTurnExcluded ∧
      wrongTurnExcluded.timeLimit? = some 10000 ∧ InvokerExpected puzzled.invoker ∧
      HandlersExpected puzzled.table ⟨.ofText "/ab", .ofText "/"⟩ ∧
      (puzzled.lintRequest ⟨.ofText "/ab", .ofText "/", wrongTurnExcluded, none⟩).outcome =
        .error (.group {}) := by
  have checked : Configuration.checkSettings [("blacklist", .text "(?:(/)|a|b)*+")] =
      .ok { Configuration.default with blacklist := "(?:(/)|a|b)*+" } := rfl
  have filled : "(?:(/)|a|b)*+".isEmpty = false := by decide
  refine ⟨?_, by decide +kernel, puzzled_invoker_expected, default_handlers_expected _, rfl⟩
  simp only [Configuration.ofEntries, checked, Configuration.compileExclusion, compile_wrong_turn,
    filled, Bool.false_eq_true, if_false]
  rfl

end Linter

end PlaybookLint
