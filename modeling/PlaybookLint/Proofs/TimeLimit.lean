import PlaybookLint.Proofs.Checks

/-!
Time limits. The timeout of an accepted configuration is above zero, so the time limit that is taken
from it is a number of thousandths of a second unless it is too large to be a number at all.
-/

namespace PlaybookLint

namespace Binary64

theorem bounded_above_zero (mantissa : Nat) (exponent : Int) :
    (∃ mantissa' exponent', bounded false mantissa exponent = .finite false mantissa' exponent') ∨
      bounded false mantissa exponent = .infinite false := by
  rw [bounded]
  split
  · exact .inr rfl
  · exact .inl ⟨_, _, rfl⟩

/-- Rounding a number that is not below zero gives such a number, which may be infinite. -/
theorem of_ratio_above_zero (num den : Nat) :
    (∃ mantissa exponent, ofRatio false num den = .finite false mantissa exponent) ∨
      ofRatio false num den = .infinite false := by
  rw [ofRatio]
  split
  · exact .inl ⟨_, _, rfl⟩
  · simp only
    split
    · exact bounded_above_zero _ _
    · exact bounded_above_zero _ _

/-- A product with a number above zero has no integer part exactly if it is infinite. -/
theorem truncate_times_eq_none_iff {x : Binary64} (positive : x.isPositive = true) (n : Nat) :
    (x.times n).truncate? = none ↔ x.times n = .infinite false := by
  have finite_or_infinite :
      (∃ mantissa exponent, x.times n = .finite false mantissa exponent) ∨
        x.times n = .infinite false := by
    cases x with
    | notANumber => cases positive
    | infinite negative =>
        cases negative with
        | false => exact .inr rfl
        | true => cases positive
    | finite negative mantissa exponent =>
        cases negative with
        | false => exact of_ratio_above_zero _ _
        | true => cases positive
  rcases finite_or_infinite with ⟨mantissa, exponent, finite⟩ | infinite
  · rw [finite]
    constructor <;> intro none <;> cases none
  · rw [infinite]
    exact ⟨fun _ => rfl, fun _ => rfl⟩

end Binary64

namespace Configuration

theorem as_positive_ok {d : Datum} {x : Binary64} (passed : d.asPositive = .ok x) :
    x.isPositive = true := by
  obtain ⟨y, _, above⟩ := Outcome.bind_ok passed
  split at above
  · rename_i positive
    cases above
    exact positive
  · cases above

variable {room : Room} {entries : Entries} {c : Configuration}

theorem accepted_timeout_positive (accepted : ofEntries room entries = .ok c) :
    c.timeout.isPositive = true := by
  obtain ⟨_, settled, _⟩ := of_entries_ok_iff.mp accepted
  exact checked_satisfies (P := (·.isPositive = true)) (by decide +kernel)
    (fun _ _ => as_positive_ok) settled.timeout

/-- An accepted configuration is without a time limit exactly if a thousand times its timeout is too
large for a number. -/
theorem accepted_unlimited_iff (accepted : ofEntries room entries = .ok c) :
    c.timeLimit? = none ↔ c.timeout.times 1000 = .infinite false :=
  Binary64.truncate_times_eq_none_iff (accepted_timeout_positive accepted) 1000

end Configuration

end PlaybookLint
