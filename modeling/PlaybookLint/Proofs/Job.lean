import PlaybookLint.Proofs.Accounting

/-!
A request as a job that goes on step by step. A job does one event after another and waits for the
answer to its call in between, so that other jobs can go on meanwhile. Done without a pause, the job of
a request is its run.
-/

namespace PlaybookLint

variable {ε α β : Type}

namespace Run

/-- One more event at the beginning. -/
def after (e : Event) (r : Run ε α) : Run ε α := ⟨e :: r.events, r.outcome⟩

theorem after_bind (e : Event) (r : Run ε α) (next : α → Run ε β) :
    r.after e >>= next = (r >>= next).after e := by
  cases came : r.outcome with
  | ok a =>
      have later : (r.after e).outcome = .ok a := came
      rw [bind_ok came, bind_ok later]
      rfl
  | error fault =>
      have later : (r.after e).outcome = .error fault := came
      rw [bind_error came, bind_error later]
      rfl

theorem after_recover (e : Event) (r : Run ε α) (handle : ε → Run ε α) :
    (r.after e).recover handle = (r.recover handle).after e := by
  obtain ⟨events, outcome⟩ := r
  cases outcome <;> rfl

end Run

/-- What the linter program brings back from a call. -/
abbrev Answer := List LogRecord × Except Trouble ToolOutput

/-- What is left to be done. -/
inductive Job (ε α : Type) where
  | ended (outcome : Except ε α)
  | does (e : Event) (next : Job ε α)
  | awaits (c : Call) (next : Answer → Job ε α)

namespace Job

/-- The job that does what a run does. -/
def ofRun (r : Run ε α) : Job ε α := r.events.foldr .does (.ended r.outcome)

/-- The run of a job that is done without a pause. -/
def run (invoker : Invoker) : Job ε α → Run ε α
  | .ended outcome => .ofExcept outcome
  | .does e next => (next.run invoker).after e
  | .awaits c next => (next (invoker c)).run invoker

/-- The number of steps that a job takes, its end included. -/
def steps (invoker : Invoker) : Job ε α → Nat
  | .ended _ => 1
  | .does _ next => next.steps invoker + 1
  | .awaits c next => (next (invoker c)).steps invoker + 1

theorem run_of_run (invoker : Invoker) (r : Run ε α) : (ofRun r).run invoker = r := by
  obtain ⟨events, outcome⟩ := r
  induction events with
  | nil => rfl
  | cons e rest ih =>
      change ((ofRun ⟨rest, outcome⟩).run invoker).after e = _
      rw [ih]
      rfl

end Job

namespace Linter

/-- What a request comes to once its call is answered. -/
def afterAnswer (l : Linter) (r : Request) (answer : Answer) : Run LintFault (List Diagnostic) :=
  let brought : Run Trouble ToolOutput := ⟨answer.1.map .logged, answer.2⟩
  (brought.mapFault .trouble >>= interpret l.table r.target).recover (afterFault r)

/-- The job of a request. -/
def job (l : Linter) (r : Request) : Job LintFault (List Diagnostic) :=
  match Gate.isBlacklisted r.file.text r.configuration with
  | .error fault => .ended (.error (.group fault))
  | .ok true =>
    .does (.logged (.debug .linter s!"skipping blacklisted file {r.file.text}")) (.ended (.ok []))
  | .ok false =>
    match l.callForRequest r with
    | .error fault => .ofRun (afterFault r fault)
    | .ok call =>
      .does (.called call) (.awaits call fun answer => .ofRun (l.afterAnswer r answer))

theorem attempt_unprepared {l : Linter} {r : Request} {fault : LintFault}
    (failed : l.callForRequest r = .error fault) : l.attempt r = .fail fault := by
  rw [attempt, failed, Run.of_except_error_bind]

theorem attempt_prepared {l : Linter} {r : Request} {call : Call}
    (prepared : l.callForRequest r = .ok call) :
    (l.attempt r).recover (afterFault r) =
      (l.afterAnswer r (l.invoker call)).after (.called call) := by
  have called : (l.invoker.run call).mapFault LintFault.trouble =
    (Run.mapFault LintFault.trouble ⟨(l.invoker call).1.map .logged, (l.invoker call).2⟩).after
      (.called call) := rfl
  rw [attempt, prepared, Run.of_except_ok_bind, called, Run.after_bind, Run.after_recover]
  rfl

/-- Done without a pause, the job of a request is its run. -/
theorem run_job (l : Linter) (r : Request) : (l.job r).run l.invoker = l.lintRequest r := by
  rw [job]
  cases gate : Gate.isBlacklisted r.file.text r.configuration with
  | error fault =>
      simp only [lintRequest, gate]
      rfl
  | ok excluded =>
      cases excluded with
      | true =>
          simp only [lintRequest, gate]
          rfl
      | false =>
          rw [lint_request_let_through gate]
          cases prepared : l.callForRequest r with
          | error fault =>
              have ended : (l.attempt r).outcome = .error fault := by
                rw [attempt_unprepared prepared]
                rfl
              rw [Run.recover_error ended, attempt_unprepared prepared]
              exact Job.run_of_run l.invoker (afterFault r fault)
          | ok call =>
              rw [attempt_prepared prepared]
              change ((Job.ofRun (l.afterAnswer r (l.invoker call))).run l.invoker).after _ = _
              rw [Job.run_of_run]

end Linter

end PlaybookLint
