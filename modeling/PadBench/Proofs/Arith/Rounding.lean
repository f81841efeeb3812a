import Mathlib.Algebra.Group.Nat.Defs
import PadBench.Arith.BinaryFloat

/-!
Rounding against whole numbers.

* `round_le`: a quotient that is at most a whole number the format holds is rounded to at most it;
* `truncate_mul_le`: a share, between 0 and 1, of a whole number cut to a whole one is between 0 and it.
-/
namespace PadBench.BinaryFloat

theorem inUnits_down (num den down : Nat) : inUnits num den (-(down : Int)) = (num <<< down, den) := by
  cases down with
  | zero => rfl
  | succ down => rfl

theorem nearestEven_le {num den whole : Nat} (bound : num ≤ whole * den) :
    nearestEven num den ≤ whole := by
  have above : nearestEven num den ≤ num / den + 1 := by
    simp only [nearestEven]
    repeat' split
    all_goals omega
  have below : num / den ≤ whole := Nat.div_le_of_le_mul (by rwa [Nat.mul_comm])
  by_cases short : num / den < whole
  · omega
  · have quotient : num / den = whole := by omega
    have exact : num % den = 0 := by
      have split := Nat.div_add_mod num den
      rw [quotient, Nat.mul_comm] at split
      omega
    have den_pos : 0 < den ∨ num = 0 := by
      rcases Nat.eq_zero_or_pos den with rfl | positive
      · exact .inr (by omega)
      · exact .inl positive
    simp only [nearestEven, exact, quotient]
    rcases den_pos with positive | rfl
    · simp [positive]
    · have : whole = 0 := by simpa using quotient.symm
      simp [this]

/-- The binade of a quotient is a lower bound of it. -/
theorem mul_two_pow_le {num den low : Nat} (num_pos : 0 < num)
    (below : (low : Int) ≤ binade num den) : den * 2 ^ low ≤ num := by
  have guessed : (low : Int) ≤ (num.log2 : Int) - den.log2 := by
    simp only [binade] at below
    split at below <;> omega
  obtain ⟨guess, hguess⟩ : ∃ guess : Nat, (num.log2 : Int) - den.log2 = guess :=
    ⟨num.log2 - den.log2, by omega⟩
  simp only [binade, hguess, inUnits, Nat.shiftLeft_eq] at below
  split at below
  · have wide : den.log2 + 1 + low ≤ num.log2 := by omega
    have small : den < 2 ^ (den.log2 + 1) := Nat.lt_log2_self
    calc den * 2 ^ low ≤ 2 ^ (den.log2 + 1) * 2 ^ low := Nat.mul_le_mul_right _ (Nat.le_of_lt small)
      _ = 2 ^ (den.log2 + 1 + low) := (Nat.pow_add ..).symm
      _ ≤ 2 ^ num.log2 := Nat.pow_le_pow_right (by decide) wide
      _ ≤ num := Nat.log2_self_le (Nat.pos_iff_ne_zero.mp num_pos)
  · rename_i large
    calc den * 2 ^ low ≤ den * 2 ^ guess :=
          Nat.mul_le_mul_left _ (Nat.pow_le_pow_right (by decide) (by omega))
      _ ≤ num := by omega

/-- A format in which every whole number of its precision is a value. -/
structure HoldsWhole (format : FloatFormat) : Prop where
  least : format.leastExponent ≤ 0
  greatest : (format.precision : Int) ≤ format.greatestBinade

theorem single_holdsWhole : HoldsWhole .single := ⟨by decide, by decide⟩

/-- A quotient up to a whole number that the format holds is rounded to a finite value up to it. -/
theorem round_le {format : FloatFormat} (holds : HoldsWhole format) (negative : Bool)
    {num den whole : Nat} (den_pos : 0 < den) (bound : num ≤ whole * den)
    (narrow : whole < 2 ^ format.precision) :
    ∃ mantissa down : Nat, round format negative num den = .finite negative mantissa (-(down : Int)) ∧
      mantissa ≤ whole * 2 ^ down := by
  obtain ⟨least, greatest⟩ := holds
  by_cases zero : num = 0
  · refine ⟨0, (-format.leastExponent).toNat, ?_, Nat.zero_le _⟩
    simp only [round, zero, if_true]
    congr 1
    omega
  · have num_pos : 0 < num := Nat.pos_of_ne_zero zero
    have fine : max format.leastExponent (binade num den - ((format.precision : Int) - 1)) ≤ 0 := by
      apply Int.not_lt.mp
      intro coarse
      have above : (format.precision : Int) ≤ binade num den := by omega
      have large := mul_two_pow_le num_pos above
      have small : whole * den < den * 2 ^ format.precision := by
        rw [Nat.mul_comm]
        exact Nat.mul_lt_mul_of_pos_left narrow den_pos
      omega
    obtain ⟨down, hdown⟩ : ∃ down : Nat,
        max format.leastExponent (binade num den - ((format.precision : Int) - 1)) = -(down : Int) :=
      ⟨(-max format.leastExponent (binade num den - ((format.precision : Int) - 1))).toNat, by omega⟩
    have mantissa_le : nearestEven (num <<< down) den ≤ whole * 2 ^ down := by
      apply nearestEven_le
      rw [Nat.shiftLeft_eq, Nat.mul_right_comm]
      exact Nat.mul_le_mul_right _ bound
    refine ⟨nearestEven (num <<< down) den, down, ?_, mantissa_le⟩
    have finite : ¬ format.greatestBinade <
        ((nearestEven (num <<< down) den).log2 : Int) + -(down : Int) := by
      have short : (nearestEven (num <<< down) den).log2 < format.precision + down ∨
          nearestEven (num <<< down) den = 0 := by
        by_cases empty : nearestEven (num <<< down) den = 0
        · exact .inr empty
        · left
          rw [Nat.log2_lt empty, Nat.pow_add]
          exact Nat.lt_of_le_of_lt mantissa_le (Nat.mul_lt_mul_of_pos_right narrow (Nat.pow_pos (by decide)))
      rcases short with short | empty
      · omega
      · rw [empty, Nat.log2_zero]; omega
    simp only [round, zero, if_false, hdown, inUnits_down, finite]

/-- The whole part of a finite value that is not below the units. -/
theorem truncate_down (negative : Bool) (mantissa down : Nat) :
    truncate (.finite negative mantissa (-(down : Int))) =
      Signed32.saturate (if negative then -((mantissa / 2 ^ down : Nat) : Int)
        else ((mantissa / 2 ^ down : Nat) : Int)) := by
  cases down with
  | zero =>
    simp only [truncate, Int.natCast_zero, Int.neg_zero, Nat.pow_zero, Nat.div_one]
    rfl
  | succ down =>
    rw [← Nat.shiftRight_eq_div_pow]
    rfl

/-- Nothing, not-a-number, or a positive value up to 1. -/
inductive IsShare : BinaryFloat → Prop
  | nan : IsShare .nan
  | zero (negative : Bool) (exponent : Int) : IsShare (.finite negative 0 exponent)
  | part (mantissa down : Nat) (le_one : mantissa ≤ 2 ^ down) :
      IsShare (.finite false mantissa (-(down : Int)))

theorem ofInt_natCast (format : FloatFormat) (value : Nat) :
    ofInt format value = round format false value 1 := by
  have sign : decide ((value : Int) < 0) = false := decide_eq_false (by omega)
  rw [ofInt, sign, Int.natAbs_natCast]

theorem round_zero (format : FloatFormat) (negative : Bool) (den : Nat) :
    round format negative 0 den = .finite negative 0 format.leastExponent := by
  simp [round]

theorem truncate_zero (negative : Bool) (exponent : Int) :
    truncate (.finite negative 0 exponent) = 0 := by
  cases exponent <;> cases negative <;> simp [truncate] <;> decide

/-- A part of a whole number that the format holds, cut to a whole number, is at most what bounds it. -/
theorem truncate_part_mul_le {mantissa down value bound : Nat} (narrow : value < 2 ^ 24)
    (bound_narrow : bound < 2 ^ 24) (part_le : mantissa * value ≤ bound * 2 ^ down) :
    0 ≤ (mul .single (.finite false mantissa (-(down : Int))) (ofInt .single value)).truncate ∧
      (mul .single (.finite false mantissa (-(down : Int))) (ofInt .single value)).truncate ≤ bound := by
  obtain ⟨whole, fine, ofInt_eq, whole_le⟩ :=
    round_le single_holdsWhole false (Nat.one_pos) (Nat.le_of_eq (Nat.mul_one value).symm) narrow
  rw [ofInt_natCast, ofInt_eq]
  have units : inUnits (mantissa * whole) 1 (-(-(down : Int) + -(fine : Int))) =
      (mantissa * whole, 2 ^ (down + fine)) := by
    have exponent : -(-(down : Int) + -(fine : Int)) = ((down + fine : Nat) : Int) := by omega
    rw [exponent]
    simp [inUnits, Nat.one_shiftLeft]
  have product_le : mantissa * whole ≤ bound * 2 ^ (down + fine) := by
    calc mantissa * whole ≤ mantissa * (value * 2 ^ fine) := Nat.mul_le_mul_left _ whole_le
      _ = mantissa * value * 2 ^ fine := (Nat.mul_assoc ..).symm
      _ ≤ bound * 2 ^ down * 2 ^ fine := Nat.mul_le_mul_right _ part_le
      _ = bound * 2 ^ (down + fine) := by rw [Nat.pow_add, Nat.mul_assoc]
  obtain ⟨result, low, round_eq, result_le⟩ :=
    round_le single_holdsWhole false (Nat.pow_pos (by decide)) product_le bound_narrow
  have cut_le : result / 2 ^ low ≤ bound := Nat.div_le_of_le_mul (by rwa [Nat.mul_comm])
  simp only [mul, units, bne_self_eq_false, round_eq, truncate_down, if_false, Bool.false_eq_true]
  generalize result / 2 ^ low = cut at cut_le
  have small : (cut : Int) ≤ Signed32.greatest := by simp only [Signed32.greatest]; omega
  rw [Signed32.saturate_of_mem (by simp only [Signed32.least]; omega) small]
  omega

theorem inUnits_zero (den : Nat) (exponent : Int) : (inUnits 0 den exponent).1 = 0 := by
  cases exponent <;> simp [inUnits]

/-- Nothing times anything, cut to a whole number, is nothing. -/
theorem truncate_zero_mul (negative : Bool) (exponent : Int) (factor : BinaryFloat) :
    (mul .single (.finite negative 0 exponent) factor).truncate = 0 := by
  cases factor with
  | nan => rfl
  | infinite negative' => rfl
  | finite negative' mantissa exponent' =>
    simp only [mul, Nat.zero_mul, inUnits_zero, round_zero, truncate_zero]

/-- Not-a-number stays so, and is cut to nothing. -/
theorem truncate_nan_mul (value : Int) : (mul .single .nan (ofInt .single value)).truncate = 0 := by
  cases ofInt .single value <;> rfl

/-- A share of a whole number that the format holds, cut to a whole number, is at most that number. -/
theorem truncate_mul_le {share : BinaryFloat} (isShare : IsShare share) {value : Nat}
    (narrow : value < 2 ^ 24) :
    0 ≤ (mul .single share (ofInt .single value)).truncate ∧
      (mul .single share (ofInt .single value)).truncate ≤ value := by
  cases isShare with
  | nan =>
    rw [truncate_nan_mul]
    omega
  | zero negative exponent =>
    rw [truncate_zero_mul]
    omega
  | part mantissa down le_one =>
    apply truncate_part_mul_le narrow narrow
    rw [Nat.mul_comm value]
    exact Nat.mul_le_mul_right _ le_one

/-- Nothing, not-a-number, or a positive value up to one half. -/
inductive IsHalfShare : BinaryFloat → Prop
  | nan : IsHalfShare .nan
  | zero (negative : Bool) (exponent : Int) : IsHalfShare (.finite negative 0 exponent)
  | part (mantissa down : Nat) (le_half : 2 * mantissa ≤ 2 ^ down) :
      IsHalfShare (.finite false mantissa (-(down : Int)))

theorem IsHalfShare.isShare {share : BinaryFloat} (isHalf : IsHalfShare share) : IsShare share := by
  cases isHalf with
  | nan => exact .nan
  | zero negative exponent => exact .zero negative exponent
  | part mantissa down le_half => exact .part mantissa down (by omega)

/-- Up to one half of a whole number, cut to a whole number, is at most its half, rounded up. -/
theorem truncate_mul_le_half {share : BinaryFloat} (isHalf : IsHalfShare share) {value : Nat}
    (narrow : value < 2 ^ 24) :
    0 ≤ (mul .single share (ofInt .single value)).truncate ∧
      2 * (mul .single share (ofInt .single value)).truncate ≤ value + 1 := by
  cases isHalf with
  | nan =>
    rw [truncate_nan_mul]
    omega
  | zero negative exponent =>
    rw [truncate_zero_mul]
    omega
  | part mantissa down le_half =>
    have part_le : mantissa * value ≤ (value + 1) / 2 * 2 ^ down := by
      have doubled : 2 * (mantissa * value) ≤ 2 * ((value + 1) / 2 * 2 ^ down) := by
        calc 2 * (mantissa * value) = 2 * mantissa * value := (Nat.mul_assoc ..).symm
          _ ≤ 2 ^ down * (2 * ((value + 1) / 2)) := Nat.mul_le_mul le_half (by omega)
          _ = 2 * ((value + 1) / 2 * 2 ^ down) := by rw [Nat.mul_comm, Nat.mul_assoc]
      omega
    have half_narrow : (value + 1) / 2 < 2 ^ 24 := by omega
    have bounds := truncate_part_mul_le narrow half_narrow part_le
    omega

end PadBench.BinaryFloat
