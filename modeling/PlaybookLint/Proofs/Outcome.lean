/-!
Outcomes taken apart. Where something came of several steps in a row, something came of every step.
-/

namespace PlaybookLint.Outcome

variable {ε δ α β : Type} {x : Except ε α}

theorem bind_ok {next : α → Except ε β} {b : β} (came : x.bind next = .ok b) :
    ∃ a, x = .ok a ∧ next a = .ok b := by
  cases x with
  | error fault => cases came
  | ok a => exact ⟨a, rfl, came⟩

theorem map_ok {f : α → β} {b : β} (came : x.map f = .ok b) : ∃ a, x = .ok a ∧ f a = b := by
  cases x with
  | error fault => cases came
  | ok a => exact ⟨a, rfl, Except.ok.inj came⟩

theorem map_error_ok {f : ε → δ} {a : α} (came : x.mapError f = .ok a) : x = .ok a := by
  cases x with
  | error fault => cases came
  | ok b => exact congrArg Except.ok (Except.ok.inj came)

theorem ok_of_to_option {a : α} (came : x.toOption = some a) : x = .ok a := by
  cases x with
  | error fault => cases came
  | ok b => exact congrArg Except.ok (Option.some.inj came)

theorem map_eq_error_iff {f : α → β} {fault : ε} : x.map f = .error fault ↔ x = .error fault := by
  cases x with
  | error other => simp only [Except.map, Except.error.injEq]
  | ok a => exact iff_of_false nofun nofun

theorem map_eq_map_iff {f : α → β} (injective : ∀ a b, f a = f b → a = b) (y : Except ε α) :
    x.map f = y.map f ↔ x = y := by
  refine ⟨fun same => ?_, congrArg (Except.map f)⟩
  cases x with
  | error fault =>
      cases y with
      | error other => exact congrArg Except.error (Except.error.inj same)
      | ok b => cases same
  | ok a =>
      cases y with
      | error fault => cases same
      | ok b => exact congrArg Except.ok (injective a b (Except.ok.inj same))

end PlaybookLint.Outcome
