import Mathlib.Algebra.Order.Field.Power
import Mathlib.Data.Rat.Cast.Order
import Mathlib.Tactic.FieldSimp
import Mathlib.Tactic.Linarith
import Mathlib.Tactic.Positivity
import Mathlib.Tactic.Ring
import PlaybookLint.Proofs.Leniency
import PlaybookLint.Proofs.TimeLimit

/-!
Rounding to 64-bit numbers. A quotient is rounded in units of a power of two that leave it 53 digits, or
fewer where the least exponent is reached. So a rounded number keeps the power of two below it, and it
gets up to one exactly if half a unit in the last place is all that is missing. Every number that is read
from a numeral has been rounded so.
-/

namespace PlaybookLint

namespace Binary64

/-- The exact value of a finite number. -/
def exact : Binary64 → ℚ
  | .finite negative mantissa exponent => (if negative then -1 else 1) * mantissa * 2 ^ exponent
  | _ => 0

theorem exact_of_forward (mantissa : Nat) (exponent : Int) :
    exact (.finite false mantissa exponent) = mantissa * 2 ^ exponent := by
  simp [exact]

/-! ### Quotients in units -/

theorem two_pow_of_nonneg {e : Int} (forward : 0 ≤ e) : ((Nat.pow 2 e.toNat : Nat) : ℚ) = 2 ^ e := by
  obtain ⟨n, rfl⟩ := Int.eq_ofNat_of_zero_le forward
  simp

theorem two_pow_of_neg {e : Int} (backward : ¬0 ≤ e) :
    ((Nat.pow 2 (-e).toNat : Nat) : ℚ) = (2 ^ e)⁻¹ := by
  rw [two_pow_of_nonneg (by omega), zpow_neg]

theorem ratio_eq (mantissa : Nat) (exponent : Int) :
    0 < (ratio mantissa exponent).2 ∧
      ((ratio mantissa exponent).1 : ℚ) / (ratio mantissa exponent).2 = mantissa * 2 ^ exponent := by
  rw [ratio]
  split
  · rename_i forward
    refine ⟨Nat.one_pos, ?_⟩
    rw [Nat.cast_one, div_one, Nat.cast_mul, two_pow_of_nonneg forward]
  · rename_i backward
    refine ⟨Nat.pow_pos (by decide), ?_⟩
    rw [two_pow_of_neg backward, div_inv_eq_mul]

theorem ratio_filled {mantissa : Nat} (filled : mantissa ≠ 0) (exponent : Int) :
    0 < (ratio mantissa exponent).1 := by
  rw [ratio]
  split
  · exact Nat.mul_pos (Nat.pos_of_ne_zero filled) (Nat.pow_pos (by decide))
  · exact Nat.pos_of_ne_zero filled

theorem in_units_eq (num : Nat) {den : Nat} (filled : 0 < den) (exponent : Int) :
    0 < (inUnits num den exponent).2 ∧
      ((inUnits num den exponent).1 : ℚ) / (inUnits num den exponent).2 =
        num / den / 2 ^ exponent := by
  rw [inUnits]
  split
  · rename_i forward
    refine ⟨Nat.mul_pos filled (Nat.pow_pos (by decide)), ?_⟩
    rw [Nat.cast_mul, two_pow_of_nonneg forward, div_div]
  · rename_i backward
    refine ⟨filled, ?_⟩
    rw [Nat.cast_mul, two_pow_of_neg backward, ← div_eq_mul_inv, div_right_comm]

theorem log2_bounds {n : Nat} (filled : 0 < n) :
    (2 : ℚ) ^ (n.log2 : Int) ≤ n ∧ (n : ℚ) < 2 ^ ((n.log2 : Int) + 1) := by
  have atLeast : 2 ^ n.log2 ≤ n := Nat.log2_self_le (Nat.ne_of_gt filled)
  have below : n < 2 ^ (n.log2 + 1) := Nat.lt_log2_self
  constructor
  · exact_mod_cast atLeast
  · exact_mod_cast below

theorem two_zpow_pos (e : Int) : (0 : ℚ) < 2 ^ e := zpow_pos (by norm_num) e

theorem one_unit_iff (num : Nat) {den : Nat} (filled : 0 < den) (exponent : Int) :
    (2 : ℚ) ^ exponent ≤ num / den ↔
      (inUnits num den exponent).2 ≤ (inUnits num den exponent).1 := by
  obtain ⟨unit, quotient⟩ := in_units_eq num filled exponent
  rw [← one_le_div (two_zpow_pos exponent), ← quotient, one_le_div (Nat.cast_pos.mpr unit),
    Nat.cast_le]

/-- A quotient lies between the power of two that is found for it and the next. -/
theorem floor_log2_bounds {num den : Nat} (filled : 0 < num) (filled' : 0 < den) :
    (2 : ℚ) ^ floorLog2 num den ≤ num / den ∧ (num / den : ℚ) < 2 ^ (floorLog2 num den + 1) := by
  obtain ⟨low, high⟩ := log2_bounds filled
  obtain ⟨low', high'⟩ := log2_bounds filled'
  have positive : (0 : ℚ) < den := by exact_mod_cast filled'
  -- The difference of the logarithms is right or one too large.
  have above : (2 : ℚ) ^ ((num.log2 : Int) - den.log2 - 1) ≤ num / den := by
    rw [le_div_iff₀ positive]
    calc (2 : ℚ) ^ ((num.log2 : Int) - den.log2 - 1) * den
        ≤ 2 ^ ((num.log2 : Int) - den.log2 - 1) * 2 ^ ((den.log2 : Int) + 1) := by gcongr
      _ = 2 ^ (num.log2 : Int) := by rw [← zpow_add₀ (by norm_num)]; congr 1; omega
      _ ≤ num := low
  have below : (num / den : ℚ) < 2 ^ ((num.log2 : Int) - den.log2 + 1) := by
    rw [div_lt_iff₀ positive]
    calc (num : ℚ) < 2 ^ ((num.log2 : Int) + 1) := high
      _ = 2 ^ ((num.log2 : Int) - den.log2 + 1) * 2 ^ (den.log2 : Int) := by
          rw [← zpow_add₀ (by norm_num)]; congr 1; omega
      _ ≤ 2 ^ ((num.log2 : Int) - den.log2 + 1) * den := by gcongr
  have reached := one_unit_iff num filled' ((num.log2 : Int) - den.log2)
  simp only [floorLog2]
  split
  · rename_i short
    refine ⟨above, ?_⟩
    rw [Int.sub_add_cancel, ← not_le, reached]
    exact Nat.not_le.mpr short
  · rename_i long
    exact ⟨reached.mpr (Nat.not_lt.mp long), below⟩

/-! ### Rounding to naturals -/

/-- A quotient is rounded down if less than a half is left, up if more is, and in a tie to the even
number. -/
theorem round_div_cases (num den : Nat) :
    roundDiv num den = num / den ∧
        (2 * (num % den) < den ∨ 2 * (num % den) = den ∧ num / den % 2 = 0) ∨
      roundDiv num den = num / den + 1 ∧
        (den < 2 * (num % den) ∨ 2 * (num % den) = den ∧ num / den % 2 = 1) := by
  simp only [roundDiv, beq_iff_eq]
  split
  · exact .inl ⟨rfl, .inl ‹_›⟩
  split
  · exact .inr ⟨rfl, .inl ‹_›⟩
  split
  · exact .inl ⟨rfl, .inr ⟨by omega, ‹_›⟩⟩
  · exact .inr ⟨rfl, .inr ⟨by omega, by omega⟩⟩

/-- An even number is reached exactly if no more than a half is missing. -/
theorem even_le_round_div_iff {num den : Nat} (filled : 0 < den) {n : Nat} (even : n % 2 = 0) :
    n ≤ roundDiv num den ↔ 2 * (n * den) ≤ 2 * num + den := by
  have whole : num / den * den + num % den = num := Nat.div_add_mod' num den
  have rest : num % den < den := Nat.mod_lt num filled
  have rounded := round_div_cases num den
  rcases Nat.lt_trichotomy n (num / den + 1) with fewer | rfl | more
  · have reached : n * den ≤ num / den * den := Nat.mul_le_mul_right den (Nat.le_of_lt_succ fewer)
    exact iff_of_true (by omega) (by omega)
  · -- The number is one above the quotient, so a tie goes up to it.
    rw [Nat.add_mul, Nat.one_mul]
    omega
  · have missed : (num / den + 2) * den ≤ n * den := Nat.mul_le_mul_right den more
    rw [Nat.add_mul] at missed
    exact iff_of_false (by omega) (by omega)

/-! ### Rounding to 64-bit numbers -/

/-- The exponent of the units in which a quotient is rounded. -/
def unitExponent (num den : Nat) : Int := max (floorLog2 num den - 52) minExponent

/-- The number of units that a quotient is rounded to. -/
def unitCount (num den : Nat) : Nat :=
  roundDiv (inUnits num den (unitExponent num den)).1 (inUnits num den (unitExponent num den)).2

/-- What a quotient is rounded to: so many units, of which two to the 53rd are written as half as many
of the next size, or infinity. -/
theorem of_ratio_cases (negative : Bool) {num : Nat} (filled : 0 < num) (den : Nat) :
    ofRatio negative num den = .infinite negative ∨
      unitCount num den = Nat.pow 2 53 ∧ unitExponent num den + 1 ≤ maxExponent ∧
        ofRatio negative num den = .finite negative (Nat.pow 2 52) (unitExponent num den + 1) ∨
      unitCount num den ≠ Nat.pow 2 53 ∧ unitExponent num den ≤ maxExponent ∧
        ofRatio negative num den = .finite negative (unitCount num den) (unitExponent num den) := by
  have some : (num == 0) = false := beq_eq_false_iff_ne.mpr (Nat.ne_of_gt filled)
  have rounded : ofRatio negative num den =
      if unitCount num den == Nat.pow 2 53 then
        bounded negative (Nat.pow 2 52) (unitExponent num den + 1)
      else bounded negative (unitCount num den) (unitExponent num den) := by
    simp only [ofRatio, some, Bool.false_eq_true, if_false]
    rfl
  rw [rounded]
  simp only [bounded, beq_iff_eq]
  split
  · split
    · exact .inl rfl
    · exact .inr (.inl ⟨‹_›, Int.not_lt.mp ‹_›, rfl⟩)
  · split
    · exact .inl rfl
    · exact .inr (.inr ⟨‹_›, Int.not_lt.mp ‹_›, rfl⟩)

theorem exact_of_ratio {num : Nat} (filled : 0 < num) {den : Nat}
    (finite : ofRatio false num den ≠ .infinite false) :
    exact (ofRatio false num den) = unitCount num den * 2 ^ unitExponent num den := by
  rcases of_ratio_cases false filled den with infinite | ⟨count, _, rounded⟩ | ⟨_, _, rounded⟩
  · exact absurd infinite finite
  · have written : ((Nat.pow 2 52 : Nat) : ℚ) * 2 = (Nat.pow 2 53 : Nat) := by norm_num
    rw [rounded, exact_of_forward, count, zpow_add_one₀ (by norm_num), ← written]
    ring
  · rw [rounded, exact_of_forward]

/-! ### How far rounding goes -/

section

variable {num den : Nat} (filled : 0 < num) (filled' : 0 < den)
include filled filled'

theorem unit_count_le : unitCount num den ≤ Nat.pow 2 53 := by
  obtain ⟨unit, quotient⟩ := in_units_eq num filled' (unitExponent num den)
  have small : (num / den : ℚ) / 2 ^ unitExponent num den < (Nat.pow 2 53 : Nat) := by
    have within : floorLog2 num den + 1 ≤ 53 + unitExponent num den := by
      rw [unitExponent]
      omega
    rw [div_lt_iff₀ (two_zpow_pos _)]
    calc (num / den : ℚ) < 2 ^ (floorLog2 num den + 1) := (floor_log2_bounds filled filled').2
      _ ≤ 2 ^ (53 + unitExponent num den) := zpow_le_zpow_right₀ (by norm_num) within
      _ = (Nat.pow 2 53 : Nat) * 2 ^ unitExponent num den := by
          rw [zpow_add₀ (by norm_num)]
          norm_num
  rw [← quotient, div_lt_iff₀ (Nat.cast_pos.mpr unit)] at small
  have short := (Nat.div_lt_iff_lt_mul unit).mpr (by exact_mod_cast small)
  have rounded := round_div_cases (inUnits num den (unitExponent num den)).1
    (inUnits num den (unitExponent num den)).2
  rw [unitCount]
  omega

omit filled in
/-- An even number of units is reached exactly if no more than half a unit is missing. -/
theorem even_le_unit_count_iff {n : Nat} (even : n % 2 = 0) :
    n ≤ unitCount num den ↔ (2 * n : ℚ) ≤ 2 * (num / den / 2 ^ unitExponent num den) + 1 := by
  obtain ⟨unit, quotient⟩ := in_units_eq num filled' (unitExponent num den)
  have unit' : (0 : ℚ) < (inUnits num den (unitExponent num den)).2 := Nat.cast_pos.mpr unit
  rw [unitCount, even_le_round_div_iff unit even, ← quotient, ← mul_le_mul_iff_of_pos_right unit',
    add_mul, mul_assoc 2 (_ / _ : ℚ), div_mul_cancel₀ _ unit'.ne', ← @Nat.cast_le ℚ]
  push_cast
  rw [mul_assoc, one_mul]

/-- Where the least exponent is not reached, the power of two below a quotient is kept. -/
theorem power_kept (normal : -1022 ≤ floorLog2 num den) :
    (2 : ℚ) ^ floorLog2 num den ≤ unitCount num den * 2 ^ unitExponent num den := by
  have units : floorLog2 num den = 52 + unitExponent num den := by
    rw [unitExponent, minExponent]
    omega
  have power : (2 : ℚ) ^ floorLog2 num den = (Nat.pow 2 52 : Nat) * 2 ^ unitExponent num den := by
    rw [units, zpow_add₀ (by norm_num)]
    norm_num
  have long : ((Nat.pow 2 52 : Nat) : ℚ) ≤ (num / den : ℚ) / 2 ^ unitExponent num den := by
    rw [le_div_iff₀ (two_zpow_pos _), ← power]
    exact (floor_log2_bounds filled filled').1
  have count : Nat.pow 2 52 ≤ unitCount num den :=
    (even_le_unit_count_iff filled' (by decide)).mpr (by linarith)
  rw [power]
  gcongr

/-- Of a quotient that is not too small, rounding keeps a half at least. -/
theorem half_kept (large : (2 : ℚ) ^ (-1022 : Int) ≤ num / den)
    (finite : ofRatio false num den ≠ .infinite false) :
    (num / den : ℚ) ≤ 2 * exact (ofRatio false num den) := by
  have below := (floor_log2_bounds filled filled').2
  have normal : -1022 ≤ floorLog2 num den := by
    by_contra small
    have power : (2 : ℚ) ^ (floorLog2 num den + 1) ≤ 2 ^ (-1022 : Int) :=
      zpow_le_zpow_right₀ (by norm_num) (by omega)
    linarith
  rw [exact_of_ratio filled finite]
  calc (num / den : ℚ) ≤ 2 ^ (floorLog2 num den + 1) := below.le
    _ = 2 * 2 ^ floorLog2 num den := by rw [zpow_add_one₀ (by norm_num), mul_comm]
    _ ≤ 2 * (unitCount num den * 2 ^ unitExponent num den) := by
        gcongr
        exact power_kept filled filled' normal

/-- A quotient below one gets up to one exactly if half a unit is all that is missing. -/
theorem one_reached_iff (less : (num / den : ℚ) < 1) :
    1 ≤ (unitCount num den * 2 ^ unitExponent num den : ℚ) ↔
      (2 ^ 54 - 1 : ℚ) ≤ 2 ^ 54 * (num / den) := by
  obtain ⟨atLeast, below⟩ := floor_log2_bounds filled filled'
  have small : floorLog2 num den < 0 := by
    by_contra forward
    have one : (1 : ℚ) ≤ 2 ^ floorLog2 num den := one_le_zpow₀ (by norm_num) (Int.not_lt.mp forward)
    linarith
  obtain ⟨t, many⟩ : ∃ t : Nat, unitExponent num den = -(t + 53 : Nat) := by
    refine ⟨(-unitExponent num den - 53).toNat, ?_⟩
    rw [unitExponent, minExponent]
    omega
  have even : 2 ^ (t + 53) % 2 = 0 := Nat.mod_eq_zero_of_dvd (dvd_pow_self 2 (by omega))
  have unit : (2 : ℚ) ^ unitExponent num den = (2 ^ (t + 53))⁻¹ := by
    rw [many, zpow_neg, zpow_natCast]
  have positive : (0 : ℚ) < 2 ^ (t + 53) := by positivity
  have count : 2 ^ (t + 53) ≤ unitCount num den ↔ _ := even_le_unit_count_iff filled' even
  rw [unit, div_inv_eq_mul, ← @Nat.cast_le ℚ] at count
  push_cast at count
  rw [unit, ← div_eq_mul_inv, one_le_div positive, count]
  cases t with
  | zero =>
      norm_num
      constructor <;> intro reached <;> linarith
  | succ t =>
      -- Below a half, far more than half a unit is missing.
      have half : (num / den : ℚ) < 1 / 2 := by
        have exponent : floorLog2 num den + 1 ≤ -1 := by
          rw [unitExponent, minExponent] at many
          omega
        calc (num / den : ℚ) < 2 ^ (floorLog2 num den + 1) := below
          _ ≤ 2 ^ (-1 : Int) := zpow_le_zpow_right₀ (by norm_num) exponent
          _ = 1 / 2 := by norm_num
      have large : (2 : ℚ) ≤ 2 ^ (t + 1 + 53) := by
        rw [pow_succ]
        have one : (1 : ℚ) ≤ 2 ^ (t + 1 + 52) := one_le_pow₀ (by norm_num)
        linarith
      refine iff_of_false (not_le.mpr ?_) (not_le.mpr ?_)
      · nlinarith
      · norm_num
        linarith

/-- A rounded quotient is at least one exactly if half a unit in the last place below one is all that the
quotient is short of it. -/
theorem one_le_exact_iff (finite : ofRatio false num den ≠ .infinite false) :
    1 ≤ exact (ofRatio false num den) ↔ (2 ^ 54 - 1 : ℚ) ≤ 2 ^ 54 * (num / den) := by
  rw [exact_of_ratio filled finite]
  rcases lt_or_ge (num / den : ℚ) 1 with less | more
  · exact one_reached_iff filled filled' less
  · have forward : 0 ≤ floorLog2 num den := by
      by_contra backward
      have below := (floor_log2_bounds filled filled').2
      have one : (2 : ℚ) ^ (floorLog2 num den + 1) ≤ 1 :=
        zpow_le_one_of_nonpos₀ (by norm_num) (by omega)
      linarith
    refine iff_of_true ?_ (by linarith)
    calc (1 : ℚ) ≤ 2 ^ floorLog2 num den := one_le_zpow₀ (by norm_num) forward
      _ ≤ unitCount num den * 2 ^ unitExponent num den :=
        power_kept filled filled' (by omega)

end

/-! ### Products without their fractions -/

theorem truncate_forward {mantissa : Nat} {exponent : Int} {i : Int}
    (whole : (finite false mantissa exponent).truncate? = some i) :
    0 ≤ i ∧ (1 ≤ i ↔ 1 ≤ exact (.finite false mantissa exponent)) := by
  obtain ⟨unit, quotient⟩ := ratio_eq mantissa exponent
  have same : ((ratio mantissa exponent).1 / (ratio mantissa exponent).2 : Nat) = i :=
    Option.some.inj whole
  rw [← same, exact_of_forward, ← quotient, one_le_div (Nat.cast_pos.mpr unit), Nat.cast_le]
  refine ⟨Int.natCast_nonneg _, ?_⟩
  rw [← Nat.cast_one, Int.ofNat_le, Nat.one_le_div_iff unit]

/-- The integer part of a product with a number above zero is not zero exactly if the exact product
falls short of one by no more than half a unit in the last place. -/
theorem truncate_times_forward {x : Binary64} (positive : x.isPositive = true) {n : Nat}
    (many : 0 < n) {i : Int} (whole : (x.times n).truncate? = some i) :
    0 ≤ i ∧ (1 ≤ i ↔ (2 ^ 54 - 1 : ℚ) ≤ 2 ^ 54 * (n * x.exact)) := by
  cases x with
  | notANumber => cases positive
  | infinite negative => cases whole
  | finite negative mantissa exponent =>
      simp only [isPositive, Bool.and_eq_true, Bool.not_eq_true', bne_iff_ne, ne_eq] at positive
      obtain ⟨rfl, some⟩ := positive
      obtain ⟨unit, quotient⟩ := ratio_eq mantissa exponent
      have filled := Nat.mul_pos (ratio_filled some exponent) many
      have rounded : (finite false mantissa exponent).times n =
          ofRatio false ((ratio mantissa exponent).1 * n) (ratio mantissa exponent).2 := rfl
      have product : (((ratio mantissa exponent).1 * n : Nat) : ℚ) / (ratio mantissa exponent).2 =
          n * exact (.finite false mantissa exponent) := by
        rw [exact_of_forward, ← quotient, Nat.cast_mul, mul_div_right_comm, mul_comm]
      rw [rounded] at whole
      rw [← product]
      rcases of_ratio_above_zero ((ratio mantissa exponent).1 * n) (ratio mantissa exponent).2 with
        ⟨mantissa', exponent', finite⟩ | infinite
      · have reached := one_le_exact_iff filled unit (by rw [finite]; nofun)
        rw [finite] at whole reached
        rw [← reached]
        exact truncate_forward whole
      · rw [infinite] at whole
        cases whole

/-! ### Numbers of 64 bits -/

/-- The number has no more digits than 64 bits have room for. -/
def Representable : Binary64 → Prop
  | .finite _ mantissa exponent =>
    mantissa < Nat.pow 2 53 ∧ minExponent ≤ exponent ∧ exponent ≤ maxExponent
  | _ => True

/-- Rounding gives numbers of 64 bits. -/
theorem of_ratio_representable (negative : Bool) (num : Nat) {den : Nat} (filled : 0 < den) :
    (ofRatio negative num den).Representable := by
  rcases Nat.eq_zero_or_pos num with rfl | some
  · exact ⟨by decide, by decide, by decide⟩
  have least : minExponent ≤ unitExponent num den := Int.le_max_right _ _
  rcases of_ratio_cases negative some den with infinite | ⟨_, most, rounded⟩ | ⟨other, most, rounded⟩
  · rw [infinite]
    trivial
  · rw [rounded]
    exact ⟨by decide, by omega, most⟩
  · rw [rounded]
    exact ⟨Nat.lt_of_le_of_ne (unit_count_le some filled) other, least, most⟩

theorem of_tens_representable (negative : Bool) (digits : Nat) (power : Int) :
    (ofTens negative digits power).Representable := by
  rw [ofTens]
  split
  · exact of_ratio_representable negative _ Nat.one_pos
  · exact of_ratio_representable negative _ (Nat.pow_pos (by decide))

theorem of_int_representable {i : Int} {x : Binary64} (fits : ofInt? i = some x) :
    x.Representable := by
  have rounded := of_ratio_representable (decide (i < 0)) i.natAbs Nat.one_pos
  rw [ofInt?] at fits
  split at fits
  · cases fits
  · cases fits
    exact rounded

end Binary64

/-! ### Numbers that are read -/

namespace Numeral

theorem nearest_representable (negative : Bool) (digits : List Char) (power : Int) :
    (nearest negative digits power).Representable := by
  have zero : (Binary64.zero negative).Representable := ⟨by decide, by decide, by decide⟩
  simp only [nearest]
  split
  · exact zero
  split
  · trivial
  split
  · exact zero
  · exact Binary64.of_tens_representable _ _ _

theorem unsigned_representable {negative : Bool} {s : List Char} {x : Binary64}
    (read : unsigned? negative s = some x) : x.Representable := by
  have parts (fraction rest : List Char)
      (read : (if (s.takeWhile Char.isDigit).isEmpty && fraction.isEmpty then none
        else (exponent? rest).map fun power =>
          nearest negative (s.takeWhile Char.isDigit ++ fraction) (power - fraction.length)) =
        some x) : x.Representable := by
    split at read
    · cases read
    · obtain ⟨power, _, rfl⟩ := Option.map_eq_some_iff.mp read
      exact nearest_representable _ _ _
  simp only [unsigned?] at read
  split at read
  · exact parts _ _ read
  · exact parts _ _ read

theorem float_representable {s : List Char} {x : Binary64} (read : float? s = some x) :
    x.Representable := by
  simp only [float?] at read
  split at read
  · cases read
    trivial
  split at read
  · cases read
    trivial
  · exact unsigned_representable read

end Numeral

namespace Datum

theorem read_float_representable {s : String} {x : Binary64} (read : readFloat? s = some x) :
    x.Representable := by
  rw [readFloat?, Option.orElse_eq_orElse, Option.orElse_eq_or] at read
  rcases Option.or_eq_some_iff.mp read with plain | ⟨_, stripped⟩
  · exact Numeral.float_representable plain
  · obtain ⟨_, _, plain⟩ := Option.bind_eq_some_iff.mp stripped
    exact Numeral.float_representable plain

/-- A number that is read is one of 64 bits, unless it was given as another. -/
theorem as_number_representable {d : Datum} {x : Binary64} (read : d.asNumber = .ok x)
    (given : ∀ y, d = .decimal y → y.Representable) : x.Representable := by
  cases as_number_ok_iff.mp read with
  | decimal => exact given x rfl
  | flag b => exact Binary64.of_ratio_representable _ _ Nat.one_pos
  | integer fits => exact Binary64.of_int_representable fits
  | numeral _ read => exact read_float_representable read

end Datum

end PlaybookLint
