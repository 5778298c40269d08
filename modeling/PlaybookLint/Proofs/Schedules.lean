import PlaybookLint.Proofs.Pool

/-!
What schedules come to. What has happened and what is still to be expected are together what the
requests come to one at a time, and a result that is collected stands in the place of its request. Each
step keeps both, so every schedule ends in the same results, calls and notices.
-/

namespace PlaybookLint

namespace Linter

/-! ### What each step keeps -/

section Account

variable {l : Linter} {jobs : Int} {requests : List Request} {p next : Pool}

/-- What is still to be expected of a request that has come so far. -/
def Station.expected (l : Linter) : Station → Run LintFault (List Diagnostic)
  | .unsubmitted r | .queued r => l.lintRequest r
  | .busy job => job.run l.invoker
  | .done outcome | .collected outcome => .ofExcept outcome

/-- What has happened and what is still to be expected are, together and in some order, what the
requests come to. -/
structure Pool.Accounted (l : Linter) (requests : List Request) (p : Pool) : Prop where
  outcomes : p.stations.map (fun s => (s.expected l).outcome) =
    requests.map fun r => (l.lintRequest r).outcome
  events : (p.past ++ p.stations.flatMap fun s => (s.expected l).events).Perm
    (requests.flatMap fun r => (l.lintRequest r).events)

theorem start_accounted (l : Linter) (requests : List Request) :
    (Pool.start requests).Accounted l requests := by
  constructor
  · simp only [Pool.start, List.map_map]
    rfl
  · simp only [Pool.start, List.nil_append, List.flatMap_map]
    exact .refl _

/-- What happens is no longer to be expected. -/
theorem accounted_replaced {before after : List Station} {s s' : Station} {past events : List Event}
    {results results' : List (List Diagnostic)} {fault fault' : Option LintFault}
    (accounted : Pool.Accounted l requests ⟨before ++ s :: after, past, results, fault⟩)
    (outcome : (s.expected l).outcome = (s'.expected l).outcome)
    (happened : (s.expected l).events = events ++ (s'.expected l).events) :
    Pool.Accounted l requests ⟨before ++ s' :: after, past ++ events, results', fault'⟩ := by
  constructor
  · rw [← accounted.outcomes]
    simp only [List.map_append, List.map_cons, outcome]
  · refine List.Perm.trans ?_ accounted.events
    simp only [List.flatMap_append, List.flatMap_cons, happened, List.append_assoc]
    refine List.Perm.append_left past ?_
    rw [← List.append_assoc, ← List.append_assoc (List.flatMap _ before)]
    exact List.Perm.append_right _ List.perm_append_comm

theorem Station.Works.outcome {s s' : Station} {events : List Event}
    (works : s.Works l.invoker events s') :
    (s.expected l).outcome = (s'.expected l).outcome := by
  cases works with
  | does => rfl
  | answered => rfl
  | ended => rfl

theorem Station.Works.events {s s' : Station} {events : List Event}
    (works : s.Works l.invoker events s') :
    (s.expected l).events = events ++ (s'.expected l).events := by
  cases works with
  | does => rfl
  | answered => rfl
  | ended => rfl

theorem step_accounted (step : Pool.Step l jobs p next) (accounted : p.Accounted l requests) :
    next.Accounted l requests := by
  cases step with
  | @submit _ _ _ past =>
      rw [← List.append_nil past]
      exact accounted_replaced accounted rfl rfl
  | @start _ _ r past _ _ =>
      have same : (Station.queued r).expected l = (Station.busy (l.job r)).expected l :=
        (run_job l r).symm
      rw [← List.append_nil past]
      exact accounted_replaced accounted (congrArg Run.outcome same) (congrArg Run.events same)
  | work works => exact accounted_replaced accounted works.outcome works.events
  | @collect _ _ _ past =>
      rw [← List.append_nil past]
      exact accounted_replaced accounted rfl rfl
  | @raise _ _ _ past =>
      rw [← List.append_nil past]
      exact accounted_replaced accounted rfl rfl

/-- A request that comes to a result is not at a fault anywhere on its way. -/
theorem expected_returns (returns : ∀ r ∈ requests, ∃ found, (l.lintRequest r).outcome = .ok found)
    (accounted : p.Accounted l requests) {s : Station} (member : s ∈ p.stations) :
    ∃ found, (s.expected l).outcome = .ok found := by
  have among : (s.expected l).outcome ∈ p.stations.map fun s => (s.expected l).outcome :=
    List.mem_map_of_mem member
  rw [accounted.outcomes] at among
  obtain ⟨r, asked, same⟩ := List.mem_map.mp among
  rw [← same]
  exact returns r asked

/-- What is collected stands in the place of its request, and no fault was met. -/
structure Pool.Gathered (p : Pool) : Prop where
  sound : p.fault = none
  length : p.results.length = p.stations.length
  filled : ∀ (i : Nat) (found : List Diagnostic),
    p.stations[i]? = some (Station.collected (.ok found)) → p.results[i]? = some found

theorem start_gathered (requests : List Request) : (Pool.start requests).Gathered := by
  refine ⟨rfl, by simp [Pool.start], ?_⟩
  intro i found reached
  simp [Pool.start] at reached

/-- Elsewhere nothing changes. -/
theorem get_replaced {α : Type} {before after : List α} {x y : α} {i : Nat}
    (elsewhere : i ≠ before.length) : (before ++ x :: after)[i]? = (before ++ y :: after)[i]? := by
  rcases Nat.lt_or_gt_of_ne elsewhere with earlier | later
  · rw [List.getElem?_append_left earlier, List.getElem?_append_left earlier]
  · rw [List.getElem?_append_right (Nat.le_of_lt later),
      List.getElem?_append_right (Nat.le_of_lt later)]
    obtain ⟨n, further⟩ := Nat.exists_eq_add_of_lt later
    have place : i - before.length = n + 1 := by omega
    rw [place, List.getElem?_cons_succ, List.getElem?_cons_succ]

theorem get_replaced_self {α : Type} {before after : List α} {x : α} :
    (before ++ x :: after)[before.length]? = some x := by
  rw [List.getElem?_append_right (Nat.le_refl _), Nat.sub_self, List.getElem?_cons_zero]

/-- A step that collects nothing keeps what is collected. -/
theorem gathered_replaced {before after : List Station} {s s' : Station} {past past' : List Event}
    {results : List (List Diagnostic)} {fault : Option LintFault}
    (gathered : Pool.Gathered ⟨before ++ s :: after, past, results, fault⟩)
    (uncollected : s'.isCollected = false) :
    Pool.Gathered ⟨before ++ s' :: after, past', results, fault⟩ := by
  refine ⟨gathered.sound, ?_, ?_⟩
  · have length := gathered.length
    simp only [List.length_append, List.length_cons] at length ⊢
    exact length
  · intro i found reached
    by_cases here : i = before.length
    · simp only [here, get_replaced_self] at reached
      rw [Option.some.inj reached] at uncollected
      cases uncollected
    · simp only [get_replaced here (y := s)] at reached
      exact gathered.filled i found reached

/-- What is collected goes into the place of its request. -/
theorem gathered_collected {before after : List Station} {found : List Diagnostic}
    {past : List Event} {results : List (List Diagnostic)}
    (gathered : Pool.Gathered ⟨before ++ .done (.ok found) :: after, past, results, none⟩) :
    Pool.Gathered ⟨before ++ .collected (.ok found) :: after, past,
      results.set before.length found, none⟩ := by
  have length := gathered.length
  simp only [List.length_append, List.length_cons] at length
  refine ⟨rfl, ?_, ?_⟩
  · simp only [List.length_set, List.length_append, List.length_cons]
    exact length
  · intro i other reached
    by_cases here : i = before.length
    · simp only [here, get_replaced_self] at reached
      cases reached
      have within : before.length < results.length := by omega
      simp only [here, List.getElem?_set_self within]
    · simp only [get_replaced here (y := Station.done (.ok found))] at reached
      rw [List.getElem?_set_ne (Ne.symm here)]
      exact gathered.filled i other reached

theorem Station.Works.uncollected {s s' : Station} {events : List Event}
    (works : s.Works l.invoker events s') : s'.isCollected = false := by
  cases works with
  | does => rfl
  | answered => rfl
  | ended => rfl

theorem step_gathered (returns : ∀ r ∈ requests, ∃ found, (l.lintRequest r).outcome = .ok found)
    (step : Pool.Step l jobs p next) (accounted : p.Accounted l requests) (gathered : p.Gathered) :
    next.Gathered := by
  cases step with
  | submit => exact gathered_replaced gathered rfl
  | start => exact gathered_replaced gathered rfl
  | work works => exact gathered_replaced gathered works.uncollected
  | collect => exact gathered_collected gathered
  | raise =>
      obtain ⟨found, came⟩ := expected_returns returns accounted
        (List.mem_append_right _ List.mem_cons_self)
      cases came

/-- Along every schedule the account is kept and results stand in their places. -/
theorem steps_accounted (returns : ∀ r ∈ requests, ∃ found, (l.lintRequest r).outcome = .ok found)
    (steps : Pool.Steps l jobs (.start requests) p) : p.Accounted l requests ∧ p.Gathered := by
  -- Both are kept together: no fault is met because none is to be expected.
  induction steps with
  | refl => exact ⟨start_accounted l requests, start_gathered requests⟩
  | tail _ step ih =>
      exact ⟨step_accounted step ih.1, step_gathered returns step ih.1 ih.2⟩

/-- When all is collected, the results are those of the requests, in their order. -/
theorem results_of_collected
    (returns : ∀ r ∈ requests, ∃ found, (l.lintRequest r).outcome = .ok found)
    (accounted : p.Accounted l requests) (gathered : p.Gathered)
    (all : ∀ s ∈ p.stations, s.isCollected = true) :
    p.results.map Except.ok = requests.map fun r => (l.lintRequest r).outcome := by
  rw [← accounted.outcomes]
  apply List.ext_getElem?
  intro i
  rw [List.getElem?_map, List.getElem?_map]
  cases reached : p.stations[i]? with
  | none =>
      have beyond : p.results[i]? = none := by
        rw [List.getElem?_eq_none_iff, gathered.length]
        exact List.getElem?_eq_none_iff.mp reached
      rw [beyond]
      rfl
  | some s =>
      have member : s ∈ p.stations := List.mem_of_getElem? reached
      obtain ⟨found, came⟩ := expected_returns returns accounted member
      have closed := all s member
      cases s with
      | collected outcome =>
          have same : outcome = .ok found := came
          subst same
          rw [gathered.filled i found reached]
          rfl
      | _ => cases closed

/-- When all is collected, everything has happened that the requests come to, and nothing else. -/
theorem past_of_collected (accounted : p.Accounted l requests)
    (all : ∀ s ∈ p.stations, s.isCollected = true) :
    p.past.Perm (requests.flatMap fun r => (l.lintRequest r).events) := by
  have quiet : (p.stations.flatMap fun s => (s.expected l).events) = [] := by
    rw [List.flatMap_eq_nil_iff]
    intro s member
    have closed := all s member
    cases s with
    | collected outcome => rfl
    | _ => cases closed
  have events := accounted.events
  rw [quiet, List.append_nil] at events
  exact events

end Account

/-! ### All requests -/

section All

variable {l : Linter} {requests : List Request}

/-- Requests that all come to a result come to these results in their order: one at a time, and
together. -/
theorem results_of_returns
    (returns : ∀ r ∈ requests, ∃ found, (l.lintRequest r).outcome = .ok found) :
    ∃ results, results.map Except.ok = requests.map (fun r => (l.lintRequest r).outcome) ∧
      requests.mapM l.lintRequest =
        ⟨requests.flatMap fun r => (l.lintRequest r).events, .ok results⟩ ∧
      together (requests.map l.lintRequest) =
        ⟨requests.flatMap fun r => (l.lintRequest r).events, .ok results⟩ := by
  induction requests with
  | nil => exact ⟨[], rfl, rfl, rfl⟩
  | cons r rest ih =>
      obtain ⟨found, came⟩ := returns r List.mem_cons_self
      obtain ⟨results, same, inTurn, atOnce⟩ := ih fun other member =>
        returns other (List.mem_cons_of_mem _ member)
      refine ⟨found :: results, ?_, ?_, ?_⟩
      · rw [List.map_cons, List.map_cons, same, came]
      · rw [List.mapM_cons, Run.bind_ok came, inTurn, Run.bind_ok (a := results) rfl]
        change Run.mk (_ ++ (_ ++ [])) _ = _
        rw [List.append_nil]
        rfl
      · rw [List.map_cons, together, atOnce, came]
        rfl

/-- Results that are the same request by request are the same. -/
theorem results_unique {outcomes : List (Except LintFault (List Diagnostic))}
    {results results' : List (List Diagnostic)} (same : results.map Except.ok = outcomes)
    (same' : results'.map Except.ok = outcomes) : results = results' := by
  have ok : Function.Injective (Except.ok : List Diagnostic → Except LintFault _) :=
    fun _ _ => Except.ok.inj
  exact ok.list_map (same.trans same'.symm)

/-- Several requests come to the same whatever the number of workers and the order of their steps, if
each of them comes to a result on its own. There are as many results as requests, each in the place of
its request; calls and notices are those of the requests one at a time, in some order. Every schedule
ends, and none gets stuck. -/
theorem lint_all_schedules (l : Linter) (jobs : Int) (requests : List Request)
    (returns : ∀ r ∈ requests, ∃ found, (l.lintRequest r).outcome = .ok found) :
    ∃ results, (l.lintAll jobs requests).outcome = .ok results ∧
      results.length = requests.length ∧
      (∀ (i : Nat) (r : Request), requests[i]? = some r →
        ∃ found, results[i]? = some found ∧ (l.lintRequest r).outcome = .ok found) ∧
      (∀ run, Schedule l jobs requests run → run.outcome = .ok results ∧
        run.calls.Perm (l.lintAll 1 requests).calls ∧
        run.notices.Perm (l.lintAll 1 requests).notices) ∧
      (∃ run, Schedule l jobs requests run) ∧
      (∀ p, 1 < jobs → Pool.Steps l jobs (.start requests) p →
        (∃ outcome, p.AtEnd outcome) ∨ ∃ next, Pool.Step l jobs p next) ∧
      WellFounded fun later earlier => Pool.Step l jobs earlier later := by
  obtain ⟨results, same, inTurn, atOnce⟩ := results_of_returns returns
  have all : ∀ jobs, l.lintAll jobs requests =
      ⟨requests.flatMap fun r => (l.lintRequest r).events, .ok results⟩ := by
    intro jobs
    rw [lintAll]
    split
    · exact inTurn
    · exact atOnce
  refine ⟨results, by rw [all], ?_, ?_, ?_, ?_, ?_, steps_well_founded l jobs⟩
  · have lengths := congrArg List.length same
    rw [List.length_map, List.length_map] at lengths
    exact lengths
  · intro i r asked
    have place := congrArg (·[i]?) same
    simp only [List.getElem?_map, asked, Option.map_some] at place
    obtain ⟨found, reached, came⟩ := Option.map_eq_some_iff.mp place
    exact ⟨found, reached, came.symm⟩
  · intro run schedule
    rw [all]
    cases schedule with
    | oneByOne alone =>
        rw [inTurn]
        exact ⟨rfl, .refl _, .refl _⟩
    | atOnce several steps atEnd =>
        obtain ⟨accounted, gathered⟩ := steps_accounted returns steps
        cases atEnd with
        | gathered collected =>
            have results' := results_of_collected returns accounted gathered collected
            have past := past_of_collected accounted collected
            exact ⟨congrArg Except.ok (results_unique results' same), past.filterMap _,
              past.filterMap _⟩
        | raised idle => cases gathered.sound
  · by_cases several : 1 < jobs ∧ 1 < requests.length
    · obtain ⟨last, outcome, steps, atEnd⟩ :=
        exists_at_end (l := l) (Int.lt_trans Int.zero_lt_one several.1) (.start requests)
      exact ⟨_, .atOnce several steps atEnd⟩
    · exact ⟨_, .oneByOne (by omega)⟩
  · intro p several steps
    exact at_end_or_step (Int.lt_trans Int.zero_lt_one several) p

/-- Two requests for one file, with two workers. -/
theorem same_request_twice :
    (∀ r ∈ [plainRequest, plainRequest], ∃ found, (puzzled.lintRequest r).outcome = .ok found) ∧
      ∃ results, (puzzled.lintAll 2 [plainRequest, plainRequest]).outcome = .ok results ∧
        results.length = 2 ∧
        ∀ run, Schedule puzzled 2 [plainRequest, plainRequest] run → run.outcome = .ok results := by
  have returns : ∀ r ∈ [plainRequest, plainRequest],
      ∃ found, (puzzled.lintRequest r).outcome = .ok found := by
    intro r asked
    have same : r = plainRequest := by simpa using asked
    have came : (puzzled.lintRequest plainRequest).outcome.toBool = true := by decide +kernel
    rw [same]
    cases ended : (puzzled.lintRequest plainRequest).outcome with
    | ok found => exact ⟨found, rfl⟩
    | error fault =>
        rw [ended] at came
        cases came
  obtain ⟨results, all, length, _, schedules, _⟩ :=
    lint_all_schedules puzzled 2 [plainRequest, plainRequest] returns
  exact ⟨returns, results, all, length, fun run schedule => (schedules run schedule).1⟩

end All

end Linter

end PlaybookLint
