import PlaybookLint.Proofs.Accounting
import PlaybookLint.Proofs.Invocation
import PlaybookLint.Proofs.Rounding
import PlaybookLint.Proofs.Session

/-!
Time limits that leave no time. A timeout above zero is cut off to thousandths, so one of less than a
thousandth becomes a limit of zero, and a call with such a limit is given up before its program can end.
Neither rounding nor the way back to seconds has a part in that: timeouts from a thousandth on give a
limit of one at least, and that is waited for.
-/

namespace PlaybookLint

namespace Configuration

/-- The timeout of an accepted configuration is a number of 64 bits, if one that was given as a number
is. -/
theorem accepted_timeout_representable {room : Room} {entries : Entries} {c : Configuration}
    (accepted : ofEntries room entries = .ok c)
    (numbers : ∀ key x, Setting.timeout.given? entries = some (key, .decimal x) → x.Representable) :
    c.timeout.Representable := by
  have settled := (of_entries_ok_iff.mp accepted).2.1.timeout
  rw [checkGiven] at settled
  split at settled
  · rename_i key d given
    obtain ⟨x, read, passed⟩ := Outcome.bind_ok (Outcome.map_error_ok settled)
    split at passed
    · cases passed
      refine Datum.as_number_representable read fun y same => numbers key y ?_
      rw [given, same]
    · cases passed
  · rw [← Except.ok.inj settled]
    exact Binary64.of_ratio_representable _ _ Nat.one_pos

/-- No power of two up to the 62nd is so little above a multiple of a thousand as rounding could bridge;
beyond, the numbers of 53 digits are too small for the thousandfold to get near. -/
theorem thousandfold_reaches {m k : Nat} (short : m < 2 ^ 53)
    (near : 2 ^ 54 * 2 ^ k ≤ 2 ^ 54 * (1000 * m) + 2 ^ k) : 2 ^ k ≤ 1000 * m := by
  by_contra missing
  have small : k ≤ 62 := by
    by_contra large
    have beyond : 2 ^ 63 ≤ 2 ^ k := Nat.pow_le_pow_right (by decide) (Nat.lt_of_not_le large)
    generalize 2 ^ k = power at *
    omega
  -- The next multiple of a thousand below the power is further away than rounding reaches.
  have apart : ∀ k ≤ 62, 2 ^ k / 2 ^ 54 < 2 ^ k % 1000 := by decide
  have apart := apart k small
  generalize 2 ^ k = power at *
  omega

/-- With numbers of 64 bits, rounding does not get the thousandfold up to one. -/
theorem thousandfold_not_rounded_up {mantissa : Nat} {exponent : Int} (short : mantissa < Nat.pow 2 53)
    (near : (2 ^ 54 - 1 : ℚ) ≤ 2 ^ 54 * (1000 * (mantissa * 2 ^ exponent))) :
    (1 : ℚ) ≤ 1000 * (mantissa * 2 ^ exponent) := by
  rcases lt_or_ge exponent 0 with backward | forward
  · obtain ⟨k, rfl⟩ : ∃ k : Nat, exponent = -k := ⟨(-exponent).toNat, by omega⟩
    have positive : (0 : ℚ) < 2 ^ k := by positivity
    rw [zpow_neg, zpow_natCast, ← div_eq_mul_inv, mul_div_assoc'] at near ⊢
    rw [mul_div_assoc', le_div_iff₀ positive] at near
    rw [le_div_iff₀ positive, one_mul]
    have near' : (2 : ℚ) ^ 54 * 2 ^ k ≤ 2 ^ 54 * (1000 * mantissa) + 2 ^ k := by linarith
    exact_mod_cast thousandfold_reaches short (by exact_mod_cast near')
  · have whole : (1 : ℚ) ≤ 2 ^ exponent := one_le_zpow₀ (by norm_num) forward
    have some : (1 : ℚ) ≤ mantissa := by
      rcases Nat.eq_zero_or_pos mantissa with rfl | some
      · norm_num at near
      · exact_mod_cast some
    nlinarith

/-- The limit of an accepted configuration is a thousandth at least exactly if rounding gets the
thousandfold of its timeout up to one, and with numbers of 64 bits exactly if that is one at least. -/
theorem limit_counts_iff {room : Room} {entries : Entries} {c : Configuration} {ms : Int}
    (accepted : ofEntries room entries = .ok c) (limited : c.timeLimit? = some ms) :
    0 ≤ ms ∧ (1 ≤ ms ↔ (2 ^ 54 - 1 : ℚ) ≤ 2 ^ 54 * (1000 * c.timeout.exact)) ∧
      (c.timeout.Representable → (1 ≤ ms ↔ 1 ≤ 1000 * c.timeout.exact)) := by
  have positive := accepted_timeout_positive accepted
  obtain ⟨counts, reached⟩ := Binary64.truncate_times_forward positive (by decide) limited
  have reached : 1 ≤ ms ↔ (2 ^ 54 - 1 : ℚ) ≤ 2 ^ 54 * (1000 * c.timeout.exact) := by
    exact_mod_cast reached
  refine ⟨counts, reached, fun representable => reached.trans ⟨fun near => ?_, fun far => by linarith⟩⟩
  rw [timeLimit?] at limited
  generalize c.timeout = timeout at positive limited representable near
  cases timeout with
  | notANumber => cases positive
  | infinite negative => cases limited
  | finite negative mantissa exponent =>
      cases negative with
      | true => cases positive
      | false =>
          rw [Binary64.exact_of_forward] at near ⊢
          exact thousandfold_not_rounded_up representable.1 near

end Configuration

/-! ### Calls -/

namespace Linter

theorem calls_judge (output : ToolOutput) : (VersionCheck.judge output).calls = [] := by
  cases reason : output.reason? with
  | some reason =>
      simp only [VersionCheck.judge, reason]
      rfl
  | none =>
      simp only [VersionCheck.judge, reason]
      split <;> rfl

theorem lint_request_limited {l : Linter} {r : Request} {call : Call}
    (among : call ∈ (l.lintRequest r).calls) :
    r.configuration.timeLimit? = some call.timeLimit := by
  cases gate : Gate.isBlacklisted r.file.text r.configuration with
  | error fault =>
      rw [(lint_request_gate_broken gate).1] at among
      cases among
  | ok excluded =>
      cases excluded with
      | true =>
          rw [(lint_request_blacklisted gate).1] at among
          cases among
      | false =>
          obtain ⟨told, attempted, way, _⟩ := lint_request_attempted (l := l) gate
          generalize (l.lintRequest r).calls = calls at among way
          cases way with
          | unprepared _ => cases among
          | troubled prepared _ =>
              rw [List.mem_singleton.mp among]
              exact prepared.timeLimit
          | read prepared _ _ =>
              rw [List.mem_singleton.mp among]
              exact prepared.timeLimit

theorem check_version_limited {l : Linter} {directory : Path} {call : Call}
    (among : call ∈ (l.checkVersion directory).calls) :
    l.configuration.timeLimit? = some call.timeLimit := by
  have silent (fault : LintFault) : (if fault.isExpected then do
        Run.log [.debug .linter s!"version check failed: {fault.message}"]
        return ⟨.unavailable, fault.message⟩
      else Run.fail fault : Run LintFault VersionReport).calls = [] := by
    split <;> rfl
  rw [checkVersion, Run.calls_recover_silent _ silent, VersionCheck.attempt] at among
  cases limited : l.configuration.timeLimit? with
  | none =>
      simp only [callFor, limited, Run.of_except_error_bind] at among
      cases among
  | some limit =>
      simp only [callFor, limited, Run.of_except_ok_bind] at among
      have called (made : Call) : ((l.invoker.run made).mapFault LintFault.trouble).calls = [made] :=
        calls_invoker_run l.invoker made
      cases brought : ((l.invoker.run ⟨l.configuration.executablePath, [VersionCheck.listTags],
          directory, limit⟩).mapFault LintFault.trouble).outcome with
      | ok output =>
          rw [Run.calls_bind_ok brought, called, calls_judge, List.append_nil] at among
          rw [List.mem_singleton.mp among]
      | error fault =>
          rw [Run.calls_bind_error brought, called] at among
          rw [List.mem_singleton.mp among]

end Linter

namespace Command

/-! ### Waiting for what is left -/

theorem thousandths_of_waits {seconds : Binary64} {limit : Nat} (waits : waitFor seconds = .ok limit) :
    thousandths seconds = some limit := by
  simp only [waitFor] at waits
  split at waits
  · cases waits
  · split at waits
    · cases waits
    · split at waits
      · cases waits
      · rename_i ms whole _ _
        rw [whole, Except.ok.inj waits]

theorem whole_of_waits {seconds : Binary64} {limit : Nat} (waits : waitFor seconds = .ok limit) :
    ∃ i : Int, (seconds.times 1000).truncate? = some i ∧ i.toNat = limit :=
  Option.map_eq_some_iff.mp (thousandths_of_waits waits)

theorem seconds_of_zero : secondsOf 0 = some (.zero false) := by decide +kernel

theorem zero_of_waits {limit : Nat} (waits : waitFor (.zero false) = .ok limit) : limit = 0 := by
  have unwaited : thousandths (.zero false) = some 0 := by decide +kernel
  exact (Option.some.inj (unwaited.symm.trans (thousandths_of_waits waits))).symm

theorem seconds_of_natural {n : Nat} {seconds : Binary64} (fits : secondsOf n = some seconds) :
    seconds = .ofRatio false n 1000 ∧
      ∃ mantissa exponent, seconds = .finite false mantissa exponent := by
  have forward : decide ((n : Int) < 0) = false :=
    decide_eq_false (Int.not_lt.mpr (Int.natCast_nonneg n))
  rw [secondsOf, forward, Int.natAbs_natCast] at fits
  rcases Binary64.of_ratio_above_zero n 1000 with ⟨mantissa, exponent, rounded⟩ | infinite
  · rw [rounded] at fits
    cases fits
    exact ⟨rounded.symm, mantissa, exponent, rfl⟩
  · rw [infinite] at fits
    cases fits

/-- Two thousandths of a second or more become seconds whose thousandfold is one at least, for rounding
keeps half of them. -/
theorem waits_of_several {n : Nat} (several : 2 ≤ n) {seconds : Binary64} {limit : Nat}
    (fits : secondsOf n = some seconds) (waits : waitFor seconds = .ok limit) : 1 ≤ limit := by
  obtain ⟨i, whole, rfl⟩ := whole_of_waits waits
  obtain ⟨rounded, mantissa, exponent, written⟩ := seconds_of_natural fits
  have several' : (2 : ℚ) ≤ n := by exact_mod_cast several
  have large : (2 : ℚ) ^ (-1022 : Int) ≤ n / (1000 : Nat) := by
    calc (2 : ℚ) ^ (-1022 : Int) ≤ 2 ^ (-9 : Int) := zpow_le_zpow_right₀ (by norm_num) (by norm_num)
      _ ≤ n / (1000 : Nat) := by
          norm_num
          linarith
  have kept := Binary64.half_kept (by omega) (by decide) large
    (by rw [← rounded, written]; nofun)
  rw [← rounded] at kept
  push_cast at kept
  have positive : seconds.isPositive = true := by
    rw [written, Binary64.isPositive, Bool.not_false, Bool.true_and, bne_iff_ne]
    rintro rfl
    rw [written, Binary64.exact_of_forward] at kept
    norm_num at kept
    linarith
  have reached := (Binary64.truncate_times_forward positive (by decide) whole).2.mpr
    (by push_cast; linarith)
  omega

/-- A call is waited for at all exactly if its limit is not zero. -/
theorem waits_iff {ms : Int} {seconds : Binary64} {limit : Nat} (counts : 0 ≤ ms)
    (fits : secondsOf ms = some seconds) (waits : waitFor seconds = .ok limit) :
    1 ≤ limit ↔ 1 ≤ ms := by
  obtain ⟨n, rfl⟩ := Int.eq_ofNat_of_zero_le counts
  match n with
  | 0 =>
      cases seconds_of_zero.symm.trans fits
      cases zero_of_waits waits
      decide
  | 1 =>
      -- Half of one thousandth is none, so what is kept of it has to be worked out.
      have one : secondsOf 1 = some (.ofRatio false 1 1000) := by decide +kernel
      have waited : thousandths (.ofRatio false 1 1000) = some 1 := by decide +kernel
      cases one.symm.trans fits
      cases waited.symm.trans (thousandths_of_waits waits)
      decide
  | n + 2 => exact iff_of_true (waits_of_several (Nat.le_add_left 2 n) fits waits) (by omega)

/-- A call that leaves no time always fails. -/
theorem invoke_without_time {host : Host} {c : Call} (zero : c.timeLimit = 0) {output : ToolOutput}
    (told : (invoke host c).2 = .ok output) : output.failure ≠ none := by
  have counts : 0 ≤ c.timeLimit := by rw [zero]
  have fits : secondsOf c.timeLimit = some (.zero false) := by rw [zero, seconds_of_zero]
  have reply : Reply host c (.zero false) (invoke host c).2 := invoke_reply counts fits
  rw [told] at reply
  intro none
  obtain ⟨⟨p, limit, finish, _, waits, _, early⟩, _⟩ := reply.faithful.failure_iff.mp none
  cases zero_of_waits waits
  exact Nat.not_lt_zero _ early

end Command

namespace Linter

/-! ### From the timeout to the program -/

/-- An accepted timeout leaves time exactly if its thousandfold is one at least. What it leaves is what
every call of a request and of a version check is given and is waited for, and a call that is left none
fails whatever its program does. -/
theorem time_left_iff {room : Room} {entries : Entries} {c : Configuration} {ms : Int}
    (accepted : Configuration.ofEntries room entries = .ok c) (limited : c.timeLimit? = some ms) :
    (1 ≤ ms ↔ (2 ^ 54 - 1 : ℚ) ≤ 2 ^ 54 * (1000 * c.timeout.exact)) ∧
    ((∀ key x, Setting.timeout.given? entries = some (key, .decimal x) →
        x.Representable) →
      (1 ≤ ms ↔ 1 ≤ 1000 * c.timeout.exact)) ∧
    (∀ (l : Linter) (r : Request), r.configuration = c →
      ∀ call ∈ (l.lintRequest r).calls, call.timeLimit = ms) ∧
    (∀ (l : Linter) (directory : Path), l.configuration = c →
      ∀ call ∈ (l.checkVersion directory).calls, call.timeLimit = ms) ∧
    (∀ seconds limit, Command.secondsOf ms = some seconds → Command.waitFor seconds = .ok limit →
      (1 ≤ limit ↔ 1 ≤ ms)) ∧
    (¬1 ≤ ms → ∀ host call output, call.timeLimit = ms →
      (Command.invoke host call).2 = .ok output → output.failure ≠ none) := by
  obtain ⟨counts, reached, reachedBy⟩ := Configuration.limit_counts_iff accepted limited
  refine ⟨reached, fun numbers => reachedBy ?_, ?_, ?_, ?_, ?_⟩
  · exact Configuration.accepted_timeout_representable accepted numbers
  · rintro l r rfl call among
    exact Option.some.inj ((lint_request_limited among).symm.trans limited)
  · rintro l directory rfl call among
    exact Option.some.inj ((check_version_limited among).symm.trans limited)
  · intro seconds limit fits waits
    exact Command.waits_iff counts fits waits
  · intro none host call output given told
    exact Command.invoke_without_time (by omega) told

/-- The configuration with a timeout of so many ten-thousandths of a second. -/
def hurried (count : Nat) : Configuration :=
  { Configuration.default with timeout := .ofTens false count (-4) }

theorem hurried_accepted :
    Configuration.ofEntries .usual [("timeout", .decimal (.ofTens false 10 (-4)))] = .ok (hurried 10) ∧
    Configuration.ofEntries .usual [("timeout", .decimal (.ofTens false 5 (-4)))] = .ok (hurried 5) := by
  constructor <;> rfl

/-- The number nearest to a thousandth is a thousandth at least, and leaves a thousandth. -/
theorem thousandth_leaves_time :
    Configuration.ofEntries .usual [("timeout", .decimal (.ofTens false 10 (-4)))] = .ok (hurried 10) ∧
      (hurried 10).timeLimit? = some 1 ∧ 1 ≤ 1000 * (hurried 10).timeout.exact := by
  have limited : (hurried 10).timeLimit? = some 1 := by decide +kernel
  refine ⟨hurried_accepted.1, limited, ?_⟩
  refine ((time_left_iff hurried_accepted.1 limited).2.1 ?_).mp le_rfl
  rintro key x ⟨⟩
  exact Binary64.of_tens_representable _ _ _

/-- Half a thousandth is accepted, being above zero, and is cut off: the calls of a request and of a
version check are left no time. -/
theorem half_thousandth_cut_off :
    Configuration.ofEntries .usual [("timeout", .decimal (.ofTens false 5 (-4)))] = .ok (hurried 5) ∧
      (hurried 5).timeLimit? = some 0 ∧
      ((puzzled.lintRequest
          ⟨.ofText "/work/site.yml", .ofText "/work", hurried 5, none⟩).calls.map
        Call.timeLimit = [0]) ∧
      (({ puzzled with configuration := hurried 5 }.checkVersion (.ofText "/work")).calls.map
        Call.timeLimit = [0]) := by
  refine ⟨hurried_accepted.2, ?_, ?_, ?_⟩ <;> decide +kernel

end Linter

end PlaybookLint
