import PlaybookLint.Run

/-!
Runs taken apart. Of what a run does to the world, calls and notices are accounted for; both are read
off its events, so a run that is put together from parts has theirs, one after the other.
-/

namespace PlaybookLint

variable {ε δ α β : Type}

/-! ### Events -/

/-- The calls among events. -/
def callsIn (events : List Event) : List Call :=
  events.filterMap fun
    | .called c => some c
    | _ => none

/-- The notices among events. -/
def noticesIn (events : List Event) : List Notice :=
  events.filterMap fun
    | .notified n => some n
    | _ => none

theorem calls_in_append (first second : List Event) :
    callsIn (first ++ second) = callsIn first ++ callsIn second :=
  List.filterMap_append

theorem notices_in_append (first second : List Event) :
    noticesIn (first ++ second) = noticesIn first ++ noticesIn second :=
  List.filterMap_append

/-- What is logged is neither a call nor a notice. -/
theorem calls_in_logged (records : List LogRecord) : callsIn (records.map .logged) = [] := by
  induction records with
  | nil => rfl
  | cons record rest ih => exact ih

theorem notices_in_logged (records : List LogRecord) : noticesIn (records.map .logged) = [] := by
  induction records with
  | nil => rfl
  | cons record rest ih => exact ih

namespace Run

theorem calls_eq (r : Run ε α) : r.calls = callsIn r.events := rfl

theorem notices_eq (r : Run ε α) : r.notices = noticesIn r.events := rfl

/-! ### Runs one after the other -/

theorem bind_ok {r : Run ε α} {a : α} (came : r.outcome = .ok a) (next : α → Run ε β) :
    r >>= next = ⟨r.events ++ (next a).events, (next a).outcome⟩ := by
  change r.andThen next = _
  simp only [andThen, came]

theorem bind_error {r : Run ε α} {fault : ε} (ended : r.outcome = .error fault)
    (next : α → Run ε β) : r >>= next = ⟨r.events, .error fault⟩ := by
  change r.andThen next = _
  simp only [andThen, ended]

/-- What has come out without any event leaves no trace in what follows it. -/
theorem of_except_ok_bind (a : α) (next : α → Run ε β) : ofExcept (.ok a) >>= next = next a :=
  bind_ok rfl next

theorem of_except_error_bind (fault : ε) (next : α → Run ε β) :
    ofExcept (.error fault) >>= next = fail fault :=
  bind_error rfl next

theorem recover_ok {r : Run ε α} {a : α} (came : r.outcome = .ok a) (handle : ε → Run ε α) :
    r.recover handle = r := by
  obtain ⟨events, outcome⟩ := r
  simp only at came
  simp only [recover, came]

theorem recover_error {r : Run ε α} {fault : ε} (ended : r.outcome = .error fault)
    (handle : ε → Run ε α) :
    r.recover handle = ⟨r.events ++ (handle fault).events, (handle fault).outcome⟩ := by
  simp only [recover, ended]

theorem bind_assoc {γ : Type} (r : Run ε α) (next : α → Run ε β) (last : β → Run ε γ) :
    r >>= next >>= last = r >>= fun a => next a >>= last := by
  cases came : r.outcome with
  | error fault => rw [bind_error came, bind_error rfl, bind_error came]
  | ok a =>
      rw [bind_ok came, bind_ok came]
      cases went : (next a).outcome with
      | error fault => rw [bind_error rfl, bind_error went]
      | ok b => rw [bind_ok (a := b) rfl, bind_ok went, List.append_assoc]

/-- Runs one after the other may be taken together as one likes. -/
instance : LawfulMonad (Run ε) :=
  .mk' (Run ε)
    (fun r => by
      obtain ⟨events, outcome⟩ := r
      cases outcome with
      | error fault => rfl
      | ok a => exact congrArg (Run.mk · (.ok a)) (List.append_nil events))
    (fun _ _ => rfl) bind_assoc

/-! ### What is accounted for -/

theorem calls_bind_ok {r : Run ε α} {a : α} (came : r.outcome = .ok a) (next : α → Run ε β) :
    (r >>= next).calls = r.calls ++ (next a).calls := by
  rw [bind_ok came]
  exact calls_in_append _ _

theorem calls_bind_error {r : Run ε α} {fault : ε} (ended : r.outcome = .error fault)
    (next : α → Run ε β) : (r >>= next).calls = r.calls := by
  rw [bind_error ended, calls_eq, calls_eq]

theorem notices_bind_ok {r : Run ε α} {a : α} (came : r.outcome = .ok a) (next : α → Run ε β) :
    (r >>= next).notices = r.notices ++ (next a).notices := by
  rw [bind_ok came]
  exact notices_in_append _ _

theorem outcome_bind_ok {r : Run ε α} {a : α} (came : r.outcome = .ok a) (next : α → Run ε β) :
    (r >>= next).outcome = (next a).outcome := by
  rw [bind_ok came]

theorem calls_recover_error {r : Run ε α} {fault : ε} (ended : r.outcome = .error fault)
    (handle : ε → Run ε α) : (r.recover handle).calls = r.calls ++ (handle fault).calls := by
  rw [recover_error ended]
  exact calls_in_append _ _

theorem calls_recover_silent (r : Run ε α) {handle : ε → Run ε α}
    (silent : ∀ fault, (handle fault).calls = []) : (r.recover handle).calls = r.calls := by
  cases ended : r.outcome with
  | ok a => rw [recover_ok ended]
  | error fault => rw [calls_recover_error ended, silent, List.append_nil]

theorem notices_recover_error {r : Run ε α} {fault : ε} (ended : r.outcome = .error fault)
    (handle : ε → Run ε α) : (r.recover handle).notices = r.notices ++ (handle fault).notices := by
  rw [recover_error ended]
  exact notices_in_append _ _

theorem outcome_recover_error {r : Run ε α} {fault : ε} (ended : r.outcome = .error fault)
    (handle : ε → Run ε α) : (r.recover handle).outcome = (handle fault).outcome := by
  rw [recover_error ended]

/-- Writing to the log first changes nothing that is accounted for. -/
theorem calls_log_bind (records : List LogRecord) (next : Unit → Run ε β) :
    (log records >>= next).calls = (next ()).calls := by
  rw [calls_bind_ok (a := ()) rfl, calls_eq, log, calls_in_logged, List.nil_append]

theorem notices_log_bind (records : List LogRecord) (next : Unit → Run ε β) :
    (log records >>= next).notices = (next ()).notices := by
  rw [notices_bind_ok (a := ()) rfl, notices_eq, log, notices_in_logged, List.nil_append]

theorem outcome_log_bind (records : List LogRecord) (next : Unit → Run ε β) :
    (log records >>= next).outcome = (next ()).outcome :=
  outcome_bind_ok rfl next

end Run

/-! ### Calls of the linter program -/

theorem calls_invoker_run (invoker : Invoker) (c : Call) : (invoker.run c).calls = [c] := by
  rw [Run.calls_eq]
  exact congrArg (c :: ·) (calls_in_logged (invoker c).1)

theorem notices_invoker_run (invoker : Invoker) (c : Call) : (invoker.run c).notices = [] := by
  rw [Run.notices_eq]
  exact notices_in_logged (invoker c).1

end PlaybookLint
