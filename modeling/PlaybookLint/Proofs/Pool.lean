import PlaybookLint.Proofs.Job

/-!
Several requests with several workers. All requests are submitted in order; a worker that is free takes
one that waits, and goes on with its job by one step at a time, in any order with the steps of the
others. The results are collected as they come, each into the place of its request. No schedule goes on
for ever, and none gets stuck before its end.
-/

namespace PlaybookLint

namespace Linter

/-! ### Schedules -/

/-- How far a request has come. -/
inductive Station where
  | unsubmitted (r : Request)
  | queued (r : Request)
  | busy (job : Job LintFault (List Diagnostic))
  | done (outcome : Except LintFault (List Diagnostic))
  | collected (outcome : Except LintFault (List Diagnostic))

namespace Station

def isUnsubmitted : Station → Bool
  | .unsubmitted _ => true
  | _ => false

def isBusy : Station → Bool
  | .busy _ => true
  | _ => false

def isCollected : Station → Bool
  | .collected _ => true
  | _ => false

/-- Nothing is left to be done by a worker. -/
def isFinished : Station → Bool
  | .done _ | .collected _ => true
  | _ => false

/-- A worker goes on with its job by one step. What the program answers depends on the call alone. -/
inductive Works (invoker : Invoker) : Station → List Event → Station → Prop
  | does {e : Event} {next : Job LintFault (List Diagnostic)} :
      Works invoker (.busy (.does e next)) [e] (.busy next)
  | answered {c : Call} {next : Answer → Job LintFault (List Diagnostic)} :
      Works invoker (.busy (.awaits c next)) [] (.busy (next (invoker c)))
  | ended {outcome : Except LintFault (List Diagnostic)} :
      Works invoker (.busy (.ended outcome)) [] (.done outcome)

end Station

/-- The requests in their order, what has happened so far, the results by request, and the fault that
was met while they were collected. -/
structure Pool where
  stations : List Station
  past : List Event
  results : List (List Diagnostic)
  fault : Option LintFault

namespace Pool

def start (requests : List Request) : Pool :=
  ⟨requests.map .unsubmitted, [], requests.map fun _ => [], none⟩

/-- One step of the pool. -/
inductive Step (l : Linter) (jobs : Int) : Pool → Pool → Prop
  | submit {before after : List Station} {r : Request} {past : List Event}
      {results : List (List Diagnostic)} {fault : Option LintFault}
      (inOrder : ∀ s ∈ before, s.isUnsubmitted = false) :
      Step l jobs ⟨before ++ .unsubmitted r :: after, past, results, fault⟩
        ⟨before ++ .queued r :: after, past, results, fault⟩
  | start {before after : List Station} {r : Request} {past : List Event}
      {results : List (List Diagnostic)} {fault : Option LintFault}
      (room : ((before ++ after).countP Station.isBusy : Int) < jobs) :
      Step l jobs ⟨before ++ .queued r :: after, past, results, fault⟩
        ⟨before ++ .busy (l.job r) :: after, past, results, fault⟩
  | work {before after : List Station} {s s' : Station} {past events : List Event}
      {results : List (List Diagnostic)} {fault : Option LintFault}
      (works : s.Works l.invoker events s') :
      Step l jobs ⟨before ++ s :: after, past, results, fault⟩
        ⟨before ++ s' :: after, past ++ events, results, fault⟩
  | collect {before after : List Station} {found : List Diagnostic} {past : List Event}
      {results : List (List Diagnostic)}
      (submitted : ∀ s ∈ before ++ after, s.isUnsubmitted = false) :
      Step l jobs ⟨before ++ .done (.ok found) :: after, past, results, none⟩
        ⟨before ++ .collected (.ok found) :: after, past, results.set before.length found, none⟩
  | raise {before after : List Station} {fault : LintFault} {past : List Event}
      {results : List (List Diagnostic)}
      (submitted : ∀ s ∈ before ++ after, s.isUnsubmitted = false) :
      Step l jobs ⟨before ++ .done (.error fault) :: after, past, results, none⟩
        ⟨before ++ .collected (.error fault) :: after, past, results, some fault⟩

/-- Some steps lead from one pool to the other. -/
abbrev Steps (l : Linter) (jobs : Int) : Pool → Pool → Prop := Relation.ReflTransGen (Step l jobs)

/-- The pool is at its end: all results are collected, or a fault was met and all workers are free. -/
inductive AtEnd : Pool → Except LintFault (List (List Diagnostic)) → Prop
  | gathered {stations : List Station} {past : List Event} {results : List (List Diagnostic)}
      (all : ∀ s ∈ stations, s.isCollected = true) :
      AtEnd ⟨stations, past, results, none⟩ (.ok results)
  | raised {stations : List Station} {past : List Event} {results : List (List Diagnostic)}
      {fault : LintFault} (idle : ∀ s ∈ stations, s.isFinished = true) :
      AtEnd ⟨stations, past, results, some fault⟩ (.error fault)

end Pool

/-- A way in which several requests may go: one at a time in their order, or with several workers and
any order of their steps. -/
inductive Schedule (l : Linter) (jobs : Int) (requests : List Request) :
    Run LintFault (List (List Diagnostic)) → Prop
  | oneByOne (alone : jobs ≤ 1 ∨ requests.length ≤ 1) :
      Schedule l jobs requests (requests.mapM l.lintRequest)
  | atOnce {last : Pool} {outcome : Except LintFault (List (List Diagnostic))}
      (several : 1 < jobs ∧ 1 < requests.length) (steps : Pool.Steps l jobs (.start requests) last)
      (atEnd : last.AtEnd outcome) : Schedule l jobs requests ⟨last.past, outcome⟩

/-! ### Every schedule comes to an end -/

section Ending

variable {l : Linter} {jobs : Int} {p next : Pool}

/-- The number of steps that a request is from its end. -/
def Station.left (l : Linter) : Station → Nat
  | .unsubmitted r => (l.job r).steps l.invoker + 3
  | .queued r => (l.job r).steps l.invoker + 2
  | .busy job => job.steps l.invoker + 1
  | .done _ => 1
  | .collected _ => 0

def Pool.left (l : Linter) (p : Pool) : Nat := (p.stations.map (Station.left l)).sum

theorem Station.Works.left {s s' : Station} {events : List Event}
    (works : s.Works l.invoker events s') : s.left l = s'.left l + 1 := by
  cases works with
  | does => rfl
  | answered => rfl
  | ended => rfl

/-- One step fewer is left for a request, and so for all of them. -/
theorem left_replaced {before after : List Station} {s s' : Station} {past past' : List Event}
    {results results' : List (List Diagnostic)} {fault fault' : Option LintFault}
    (fewer : s.left l = s'.left l + 1) :
    Pool.left l ⟨before ++ s :: after, past, results, fault⟩ =
      Pool.left l ⟨before ++ s' :: after, past', results', fault'⟩ + 1 := by
  simp only [Pool.left, List.map_append, List.map_cons, List.sum_append, List.sum_cons, fewer]
  omega

theorem step_left (step : Pool.Step l jobs p next) : p.left l = next.left l + 1 := by
  cases step with
  | submit inOrder => exact left_replaced rfl
  | start room => exact left_replaced rfl
  | work works => exact left_replaced works.left
  | collect submitted => exact left_replaced rfl
  | raise submitted => exact left_replaced rfl

/-- No schedule goes on for ever. -/
theorem steps_well_founded (l : Linter) (jobs : Int) :
    WellFounded fun later earlier => Pool.Step l jobs earlier later := by
  refine Subrelation.wf ?_ (measure (Pool.left l)).wf
  intro later earlier step
  have fewer := step_left step
  change later.left l < earlier.left l
  omega

/-- A worker that has a job can go on. -/
theorem exists_works (invoker : Invoker) (job : Job LintFault (List Diagnostic)) :
    ∃ events s, Station.Works invoker (.busy job) events s := by
  cases job with
  | ended outcome => exact ⟨_, _, .ended⟩
  | does e next => exact ⟨_, _, .does⟩
  | awaits c next => exact ⟨_, _, .answered⟩

/-- The first of those that pass a test. -/
theorem exists_first {α : Type} {test : α → Bool} {xs : List α} (passing : ∃ x ∈ xs, test x = true) :
    ∃ before x after, xs = before ++ x :: after ∧ test x = true ∧ ∀ y ∈ before, test y = false := by
  cases found : xs.find? test with
  | none =>
      obtain ⟨x, member, passes⟩ := passing
      exact absurd passes (List.find?_eq_none.mp found x member)
  | some x =>
      obtain ⟨passes, before, after, split, others⟩ := List.find?_eq_some_iff_append.mp found
      exact ⟨before, x, after, split, passes, fun y member => by simpa using others y member⟩

theorem mem_of_others {α : Type} {before after : List α} {x y : α} (member : y ∈ before ++ after) :
    y ∈ before ++ x :: after := by
  rcases List.mem_append.mp member with first | last
  · exact List.mem_append_left _ first
  · exact List.mem_append_right _ (List.mem_cons_of_mem _ last)

/-- Without a worker at work, a request that waits can be taken. -/
theorem exists_start (room : 0 < jobs) {stations : List Station} {r : Request} {past : List Event}
    {results : List (List Diagnostic)} {fault : Option LintFault}
    (waits : .queued r ∈ stations) (free : ∀ s ∈ stations, s.isBusy = false) :
    ∃ next, Pool.Step l jobs ⟨stations, past, results, fault⟩ next := by
  obtain ⟨before, after, rfl⟩ := List.append_of_mem waits
  have idle : (before ++ after).countP Station.isBusy = 0 := by
    rw [List.countP_eq_zero]
    intro s member
    simp [free s (mem_of_others member)]
  exact ⟨_, .start (by rw [idle]; exact room)⟩

/-- Once all requests are submitted, a result that is there can be collected, or the fault that is there
instead be met. -/
theorem exists_collect {stations : List Station} {outcome : Except LintFault (List Diagnostic)}
    {past : List Event} {results : List (List Diagnostic)} (waits : .done outcome ∈ stations)
    (submitted : ∀ s ∈ stations, s.isUnsubmitted = false) :
    ∃ next, Pool.Step l jobs ⟨stations, past, results, none⟩ next := by
  obtain ⟨before, after, rfl⟩ := List.append_of_mem waits
  have others : ∀ s ∈ before ++ after, s.isUnsubmitted = false :=
    fun s member => submitted s (mem_of_others member)
  cases outcome with
  | ok found => exact ⟨_, .collect others⟩
  | error fault => exact ⟨_, .raise others⟩

/-- No schedule gets stuck: with room for a worker, a pool is at its end or can go on. -/
theorem at_end_or_step (room : 0 < jobs) (p : Pool) :
    (∃ outcome, p.AtEnd outcome) ∨ ∃ next, Pool.Step l jobs p next := by
  obtain ⟨stations, past, results, fault⟩ := p
  -- A request to submit comes first, then a worker with a job; only then all are free, and what is
  -- left waits to be collected or to be taken.
  by_cases unsubmitted : ∃ s ∈ stations, s.isUnsubmitted = true
  · obtain ⟨before, s, after, rfl, new, inOrder⟩ := exists_first unsubmitted
    cases s with
    | unsubmitted r => exact .inr ⟨_, .submit inOrder⟩
    | _ => cases new
  have submitted : ∀ s ∈ stations, s.isUnsubmitted = false := by simpa using unsubmitted
  by_cases busy : ∃ s ∈ stations, s.isBusy = true
  · obtain ⟨before, s, after, rfl, working, _⟩ := exists_first busy
    cases s with
    | busy job =>
        obtain ⟨events, s, works⟩ := exists_works l.invoker job
        exact .inr ⟨_, .work works⟩
    | _ => cases working
  have free : ∀ s ∈ stations, s.isBusy = false := by simpa using busy
  by_cases finished : ∀ s ∈ stations, s.isFinished = true
  · cases fault with
    | some fault => exact .inl ⟨_, .raised finished⟩
    | none =>
        by_cases all : ∀ s ∈ stations, s.isCollected = true
        · exact .inl ⟨_, .gathered all⟩
        · push Not at all
          obtain ⟨s, member, uncollected⟩ := all
          have idle := finished s member
          cases s with
          | done outcome => exact .inr (exists_collect member submitted)
          | collected outcome => exact absurd rfl uncollected
          | _ => cases idle
  · push Not at finished
    obtain ⟨s, member, unfinished⟩ := finished
    have new := submitted s member
    have idle := free s member
    cases s with
    | unsubmitted r => cases new
    | queued r => exact .inr (exists_start room member free)
    | busy job => cases idle
    | done outcome => exact absurd rfl unfinished
    | collected outcome => exact absurd rfl unfinished

/-- Every pool can be brought to its end. -/
theorem exists_at_end (room : 0 < jobs) (p : Pool) :
    ∃ last outcome, Pool.Steps l jobs p last ∧ last.AtEnd outcome := by
  induction p using (steps_well_founded l jobs).induction with
  | _ p ih =>
      rcases at_end_or_step (l := l) room p with ⟨outcome, atEnd⟩ | ⟨next, step⟩
      · exact ⟨p, outcome, .refl, atEnd⟩
      · obtain ⟨last, outcome, steps, atEnd⟩ := ih next step
        exact ⟨last, outcome, .head step steps, atEnd⟩

end Ending

end Linter

end PlaybookLint
