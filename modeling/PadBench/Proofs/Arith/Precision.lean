import Mathlib.Algebra.Order.Field.Power
import Mathlib.Algebra.Order.Field.Rat
import Mathlib.Tactic.FieldSimp
import Mathlib.Tactic.Linarith
import Mathlib.Tactic.NormNum
import Mathlib.Tactic.Positivity
import Mathlib.Tactic.Ring
import PadBench.Proofs.Arith.Rounding

/-!
How near to a quotient its rounding is.

* `binade_bounds`: the binade of a quotient is where it lies;
* `round_congr`: rounding depends on the quotient, not on the two numbers it is given as;
* `round_eq`: it counts units, which have an exponent of their own, and looks for an overflow then;
* `round_error`: below the greatest binade the relative error is at most half a unit of the last place, and near
  zero half of the least value comes on top of it;
* `round_whole`: a whole number within the precision is held as it is.
-/
namespace PadBench.BinaryFloat

theorem inUnits_quotient (num den : Nat) (exponent : Int) :
    ((inUnits num den exponent).1 : ℚ) / (inUnits num den exponent).2 =
      (num : ℚ) / den / 2 ^ exponent := by
  cases exponent with
  | ofNat up =>
    simp only [inUnits, Nat.shiftLeft_eq, Int.ofNat_eq_natCast, zpow_natCast]
    push_cast
    rw [div_div]
  | negSucc down =>
    simp only [inUnits, Nat.shiftLeft_eq, zpow_negSucc]
    push_cast
    rw [div_inv_eq_mul, div_mul_eq_mul_div]

theorem inUnits_den_pos {den : Nat} (num : Nat) (exponent : Int) (den_pos : 0 < den) :
    0 < (inUnits num den exponent).2 := by
  cases exponent with
  | ofNat up =>
    rw [inUnits, Nat.shiftLeft_eq]
    positivity
  | negSucc down => exact den_pos

/-- A quotient lies in its binade. -/
theorem binade_bounds {num den : Nat} (num_pos : 0 < num) (den_pos : 0 < den) :
    (2 : ℚ) ^ binade num den ≤ (num : ℚ) / den ∧ (num : ℚ) / den < 2 ^ (binade num den + 1) := by
  have den_rat : (0 : ℚ) < den := by exact_mod_cast den_pos
  have num_low : (2 : ℚ) ^ num.log2 ≤ num := by exact_mod_cast Nat.log2_self_le num_pos.ne'
  have num_high : (num : ℚ) < 2 ^ (num.log2 + 1) := by exact_mod_cast Nat.lt_log2_self
  have den_low : (2 : ℚ) ^ den.log2 ≤ den := by exact_mod_cast Nat.log2_self_le den_pos.ne'
  have den_high : (den : ℚ) < 2 ^ (den.log2 + 1) := by exact_mod_cast Nat.lt_log2_self
  -- The lengths leave two binades open.
  have below : (2 : ℚ) ^ ((num.log2 : Int) - den.log2 - 1) ≤ (num : ℚ) / den := by
    rw [le_div_iff₀ den_rat]
    calc (2 : ℚ) ^ ((num.log2 : Int) - den.log2 - 1) * den
        ≤ 2 ^ ((num.log2 : Int) - den.log2 - 1) * 2 ^ (den.log2 + 1) := by gcongr
      _ = 2 ^ num.log2 := by
        rw [← zpow_natCast, ← zpow_natCast, ← zpow_add₀ two_ne_zero]
        congr 1
        push_cast
        ring
      _ ≤ num := num_low
  have above : (num : ℚ) / den < 2 ^ ((num.log2 : Int) - den.log2 + 1) := by
    rw [div_lt_iff₀ den_rat]
    calc (num : ℚ) < 2 ^ (num.log2 + 1) := num_high
      _ = 2 ^ ((num.log2 : Int) - den.log2 + 1) * 2 ^ den.log2 := by
        rw [← zpow_natCast, ← zpow_natCast, ← zpow_add₀ two_ne_zero]
        congr 1
        push_cast
        ring
      _ ≤ 2 ^ ((num.log2 : Int) - den.log2 + 1) * den := by gcongr
  have scaled := inUnits_quotient num den ((num.log2 : Int) - den.log2)
  have scaled_pos : (0 : ℚ) < (inUnits num den ((num.log2 : Int) - den.log2)).2 := by
    exact_mod_cast inUnits_den_pos num _ den_pos
  have unit_pos : (0 : ℚ) < 2 ^ ((num.log2 : Int) - den.log2) := by positivity
  have shorter : (inUnits num den ((num.log2 : Int) - den.log2)).1 <
      (inUnits num den ((num.log2 : Int) - den.log2)).2 ↔
      (num : ℚ) / den < 2 ^ ((num.log2 : Int) - den.log2) := by
    rw [← Nat.cast_lt (α := ℚ), ← div_lt_one scaled_pos, scaled, div_lt_one unit_pos]
  simp only [binade]
  split
  · rename_i short
    rw [sub_add_cancel]
    exact ⟨below, shorter.mp short⟩
  · rename_i long
    exact ⟨not_lt.mp (mt shorter.mpr long), above⟩

/-- The part beyond the whole quotient decides which way it goes. -/
theorem nearestEven_cases (num den : Nat) :
    (nearestEven num den = num / den ∧ 2 * (num % den) ≤ den) ∨
      (nearestEven num den = num / den + 1 ∧ den ≤ 2 * (num % den)) := by
  unfold nearestEven
  dsimp only
  split
  · left
    omega
  · split
    · right
      omega
    · rcases Nat.mod_two_eq_zero_or_one (num / den) with even | odd
      · left
        omega
      · right
        omega

theorem nearestEven_near (num : Nat) {den : Nat} (den_pos : 0 < den) :
    |(nearestEven num den : ℚ) - (num : ℚ) / den| ≤ 1 / 2 := by
  have den_rat : (0 : ℚ) < den := by exact_mod_cast den_pos
  have whole : (num : ℚ) = den * (num / den : Nat) + (num % den : Nat) := by
    exact_mod_cast (Nat.div_add_mod num den).symm
  have split : (num : ℚ) / den = (num / den : Nat) + ((num % den : Nat) : ℚ) / den := by
    field_simp
    linarith
  have part_nonneg : (0 : ℚ) ≤ ((num % den : Nat) : ℚ) / den := by positivity
  have part_lt : ((num % den : Nat) : ℚ) / den < 1 := by
    rw [div_lt_one den_rat]
    exact_mod_cast Nat.mod_lt num den_pos
  rw [split, abs_le]
  rcases nearestEven_cases num den with ⟨down, short⟩ | ⟨up, long⟩
  · have part_le : ((num % den : Nat) : ℚ) / den ≤ 1 / 2 := by
      rw [div_le_div_iff₀ den_rat two_pos]
      have : (2 : ℚ) * (num % den : Nat) ≤ den := by exact_mod_cast short
      linarith
    rw [down]
    constructor <;> linarith
  · have le_part : 1 / 2 ≤ ((num % den : Nat) : ℚ) / den := by
      rw [div_le_div_iff₀ two_pos den_rat]
      have : (den : ℚ) ≤ 2 * (num % den : Nat) := by exact_mod_cast long
      linarith
    rw [up]
    push_cast
    constructor <;> linarith

/-- Only the quotient counts for its nearest whole number. -/
theorem nearestEven_congr {num den num' den' : Nat} (den_pos : 0 < den) (den_pos' : 0 < den')
    (same : num * den' = num' * den) : nearestEven num den = nearestEven num' den' := by
  have scale {factor : Nat} (factor_pos : 0 < factor) (num den : Nat) :
      nearestEven (factor * num) (factor * den) = nearestEven num den := by
    have less (a b : Nat) : 2 * (factor * a) < factor * b ↔ 2 * a < b := by
      rw [Nat.mul_left_comm]
      exact Nat.mul_lt_mul_left factor_pos
    have more (a b : Nat) : factor * a < 2 * (factor * b) ↔ a < 2 * b := by
      rw [Nat.mul_left_comm 2]
      exact Nat.mul_lt_mul_left factor_pos
    simp only [nearestEven, Nat.mul_div_mul_left _ _ factor_pos, Nat.mul_mod_mul_left, less, more]
  rw [← scale den_pos' num den, ← scale den_pos num' den', Nat.mul_comm den' num, same,
    Nat.mul_comm num' den, Nat.mul_comm den' den]

theorem binade_congr {num den num' den' : Nat} (num_pos : 0 < num) (den_pos : 0 < den)
    (num_pos' : 0 < num') (den_pos' : 0 < den') (same : (num : ℚ) / den = (num' : ℚ) / den') :
    binade num den = binade num' den' := by
  obtain ⟨low, high⟩ := binade_bounds num_pos den_pos
  obtain ⟨low', high'⟩ := binade_bounds num_pos' den_pos'
  rw [same] at low high
  have up : binade num den < binade num' den' + 1 :=
    (zpow_lt_zpow_iff_right₀ one_lt_two).mp (lt_of_le_of_lt low high')
  have down : binade num' den' < binade num den + 1 :=
    (zpow_lt_zpow_iff_right₀ one_lt_two).mp (lt_of_le_of_lt low' high)
  omega

/-- Rounding depends on the quotient, not on the two numbers it is given as. -/
theorem round_congr (format : FloatFormat) (negative : Bool) {num den num' den' : Nat}
    (num_pos : 0 < num) (den_pos : 0 < den) (num_pos' : 0 < num') (den_pos' : 0 < den')
    (same : (num : ℚ) / den = (num' : ℚ) / den') :
    round format negative num den = round format negative num' den' := by
  have mantissa (exponent : Int) :
      nearestEven (inUnits num den exponent).1 (inUnits num den exponent).2 =
        nearestEven (inUnits num' den' exponent).1 (inUnits num' den' exponent).2 := by
    have scaled_pos := inUnits_den_pos num exponent den_pos
    have scaled_pos' := inUnits_den_pos num' exponent den_pos'
    refine nearestEven_congr scaled_pos scaled_pos' ?_
    have quotients := inUnits_quotient num den exponent
    rw [same, ← inUnits_quotient num' den' exponent] at quotients
    rw [div_eq_div_iff (by exact_mod_cast scaled_pos.ne') (by exact_mod_cast scaled_pos'.ne')]
      at quotients
    exact_mod_cast quotients
  simp only [round, num_pos.ne', num_pos'.ne', if_false, mantissa,
    binade_congr num_pos den_pos num_pos' den_pos' same]

section

variable (format : FloatFormat) {num den : Nat}

/-- The exponent of the units that a quotient is rounded in. -/
def unit (num den : Nat) : Int :=
  max format.leastExponent (binade num den - ((format.precision : Int) - 1))

/-- The number of units that a quotient is rounded to. -/
def units (num den : Nat) : Nat :=
  nearestEven (inUnits num den (unit format num den)).1 (inUnits num den (unit format num den)).2

theorem round_eq (negative : Bool) (num_pos : 0 < num) :
    round format negative num den =
      if format.greatestBinade < ((units format num den).log2 : Int) + unit format num den then
        .infinite negative
      else .finite negative (units format num den) (unit format num den) := by
  rw [round, if_neg num_pos.ne']
  rfl

/-- The units are so fine that a precision's worth of them reaches the quotient. -/
theorem units_le (num_pos : 0 < num) (den_pos : 0 < den) :
    units format num den ≤ 2 ^ format.precision := by
  obtain ⟨_, high⟩ := binade_bounds num_pos den_pos
  have scaled_pos : (0 : ℚ) < (inUnits num den (unit format num den)).2 := by
    exact_mod_cast inUnits_den_pos num _ den_pos
  have unit_pos : (0 : ℚ) < 2 ^ unit format num den := by positivity
  have fine : binade num den + 1 ≤ format.precision + unit format num den := by
    rw [unit]
    omega
  apply nearestEven_le
  have below : ((inUnits num den (unit format num den)).1 : ℚ) / (inUnits num den (unit format num den)).2 ≤
      2 ^ format.precision := by
    rw [inUnits_quotient, div_le_iff₀ unit_pos, ← zpow_natCast, ← zpow_add₀ two_ne_zero]
    exact high.le.trans (zpow_le_zpow_right₀ one_le_two fine)
  rw [div_le_iff₀ scaled_pos] at below
  exact_mod_cast below

/-- The units are within one half of one of the quotient. -/
theorem units_near (den_pos : 0 < den) :
    |(units format num den : ℚ) * 2 ^ unit format num den - (num : ℚ) / den| ≤
      1 / 2 * 2 ^ unit format num den := by
  have unit_pos : (0 : ℚ) < 2 ^ unit format num den := by positivity
  have near := nearestEven_near (inUnits num den (unit format num den)).1
    (inUnits_den_pos num (unit format num den) den_pos)
  rw [inUnits_quotient] at near
  calc |(units format num den : ℚ) * 2 ^ unit format num den - (num : ℚ) / den|
      = |(units format num den : ℚ) - (num : ℚ) / den / 2 ^ unit format num den| *
          2 ^ unit format num den := by
        rw [← abs_of_pos unit_pos, ← abs_mul, abs_of_pos unit_pos, sub_mul, div_mul_cancel₀ _ unit_pos.ne']
    _ ≤ 1 / 2 * 2 ^ unit format num den := mul_le_mul_of_nonneg_right near unit_pos.le

/-- A quotient below the greatest binade is rounded to a finite value. -/
theorem round_finite (negative : Bool) (num_pos : 0 < num) (den_pos : 0 < den)
    (wide : format.leastExponent + format.precision ≤ format.greatestBinade)
    (bounded : (num : ℚ) / den < 2 ^ format.greatestBinade) :
    round format negative num den = .finite negative (units format num den) (unit format num den) := by
  obtain ⟨low, _⟩ := binade_bounds num_pos den_pos
  have high_binade : binade num den < format.greatestBinade :=
    (zpow_lt_zpow_iff_right₀ one_lt_two).mp (lt_of_le_of_lt low bounded)
  rw [round_eq format negative num_pos, if_neg]
  -- One more than the precision allows only for the power of two itself.
  have short : (units format num den).log2 ≤ format.precision := by
    by_cases zero : units format num den = 0
    · simp [zero]
    · have : units format num den < 2 ^ (format.precision + 1) :=
        lt_of_le_of_lt (units_le format num_pos den_pos) (Nat.pow_lt_pow_right one_lt_two (Nat.lt_succ_self _))
      exact Nat.le_of_lt_succ ((Nat.log2_lt zero).mpr this)
  rw [unit]
  omega

/-- Half a unit above the least ones is a small part of the quotient. -/
theorem half_unit_le (num_pos : 0 < num) (den_pos : 0 < den)
    (lifted : unit format num den = binade num den + 1 - format.precision) :
    (1 : ℚ) / 2 * 2 ^ unit format num den ≤ (num : ℚ) / den / 2 ^ format.precision := by
  obtain ⟨low, _⟩ := binade_bounds num_pos den_pos
  calc (1 : ℚ) / 2 * 2 ^ unit format num den = 2 ^ binade num den / 2 ^ format.precision := by
        rw [lifted, zpow_sub₀ two_ne_zero, zpow_add₀ two_ne_zero, zpow_one, zpow_natCast]
        ring
    _ ≤ (num : ℚ) / den / 2 ^ format.precision := by gcongr

/-- Below the greatest binade the error is at most half a unit of the last place and half of the least
value. -/
theorem round_error (negative : Bool) (num : Nat) (den_pos : 0 < den)
    (wide : format.leastExponent + format.precision ≤ format.greatestBinade)
    (bounded : (num : ℚ) / den < 2 ^ format.greatestBinade) :
    ∃ mantissa exponent, round format negative num den = .finite negative mantissa exponent ∧
      |(mantissa : ℚ) * 2 ^ exponent - (num : ℚ) / den| ≤
        (num : ℚ) / den / 2 ^ format.precision + 1 / 2 * 2 ^ format.leastExponent := by
  rcases Nat.eq_zero_or_pos num with rfl | num_pos
  · refine ⟨0, format.leastExponent, round_zero format negative den, ?_⟩
    simp only [Nat.cast_zero, zero_mul, zero_div, sub_zero, abs_zero]
    positivity
  · refine ⟨_, _, round_finite format negative num_pos den_pos wide bounded,
      (units_near format den_pos).trans ?_⟩
    rcases le_total (binade num den - ((format.precision : Int) - 1)) format.leastExponent with fine | coarse
    · rw [unit, max_eq_left fine]
      exact le_add_of_nonneg_left (by positivity)
    · refine (half_unit_le format num_pos den_pos ?_).trans (le_add_of_nonneg_right (by positivity))
      rw [unit, max_eq_right coarse]
      omega

end

theorem binade_one {whole : Nat} (positive : 0 < whole) : binade whole 1 = whole.log2 := by
  obtain ⟨low, high⟩ := binade_bounds positive Nat.one_pos
  rw [Nat.cast_one, div_one] at low high
  have whole_low : (2 : ℚ) ^ (whole.log2 : Int) ≤ whole := by
    rw [zpow_natCast]
    exact_mod_cast Nat.log2_self_le positive.ne'
  have whole_high : (whole : ℚ) < 2 ^ ((whole.log2 : Int) + 1) := by
    rw [← Nat.cast_succ, zpow_natCast]
    exact_mod_cast Nat.lt_log2_self
  have up := (zpow_lt_zpow_iff_right₀ one_lt_two).mp (lt_of_le_of_lt low whole_high)
  have down := (zpow_lt_zpow_iff_right₀ one_lt_two).mp (lt_of_le_of_lt whole_low high)
  omega

/-- A whole number within the precision is held as it is. -/
theorem round_whole {format : FloatFormat} (holds : HoldsWhole format) (negative : Bool) {whole : Nat}
    (positive : 0 < whole) (narrow : whole < 2 ^ format.precision) :
    ∃ down : Nat, round format negative whole 1 = .finite negative (whole * 2 ^ down) (-(down : Int)) := by
  obtain ⟨least, greatest⟩ := holds
  have short : whole.log2 < format.precision := (Nat.log2_lt positive.ne').mpr narrow
  obtain ⟨down, hdown⟩ : ∃ down : Nat,
      max format.leastExponent (binade whole 1 - ((format.precision : Int) - 1)) = -(down : Int) := by
    rw [binade_one positive]
    exact ⟨(-max format.leastExponent ((whole.log2 : Int) - ((format.precision : Int) - 1))).toNat,
      by omega⟩
  have mantissa : nearestEven (whole <<< down) 1 = whole * 2 ^ down := by
    simp [nearestEven, Nat.shiftLeft_eq, Nat.mod_one]
  have log2_mantissa : (whole * 2 ^ down).log2 = whole.log2 + down := by
    rw [Nat.log2_eq_iff (by positivity)]
    constructor
    · rw [Nat.pow_add]
      exact Nat.mul_le_mul_right _ (Nat.log2_self_le positive.ne')
    · rw [Nat.add_right_comm, Nat.pow_add]
      exact Nat.mul_lt_mul_of_pos_right Nat.lt_log2_self (by positivity)
  have finite : ¬ format.greatestBinade < ((whole * 2 ^ down).log2 : Int) + -(down : Int) := by
    rw [log2_mantissa]
    omega
  refine ⟨down, ?_⟩
  simp only [round, positive.ne', if_false, hdown, inUnits_down, mantissa, finite]

end PadBench.BinaryFloat
