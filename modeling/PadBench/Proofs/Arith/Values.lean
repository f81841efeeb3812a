import PadBench.Proofs.Arith.Precision

/-!
The value of a finite number, and the quotient that a result is rounded from.

An operation in single precision is the exact one on the values of its operands, rounded once.

* `rounds_ofInt`, `rounds_mul`, `rounds_div`: the quotient that each operation rounds;
* `Rounds.eq`: the quotient determines the result;
* `Rounds.error`: the result has a value near the quotient.
-/
namespace PadBench.BinaryFloat

/-- A finite number without a minus sign, of that value. -/
def HasValue (value : ℚ) : BinaryFloat → Prop
  | .finite false mantissa exponent => (mantissa : ℚ) * 2 ^ exponent = value
  | _ => False

/-- What a quotient without a minus sign is rounded to in single precision. -/
def Rounds (quotient : ℚ) (result : BinaryFloat) : Prop :=
  ∃ num den : Nat, 0 < den ∧ (num : ℚ) / den = quotient ∧ result = round .single false num den

theorem hasValue_finite (mantissa : Nat) (exponent : Int) :
    (finite false mantissa exponent).HasValue (mantissa * 2 ^ exponent) := rfl

theorem HasValue.exists_finite {x : BinaryFloat} {value : ℚ} (hx : x.HasValue value) :
    ∃ mantissa exponent, x = .finite false mantissa exponent ∧ (mantissa : ℚ) * 2 ^ exponent = value := by
  match x, hx with
  | .finite false mantissa exponent, value => exact ⟨mantissa, exponent, rfl, value⟩

theorem HasValue.nonneg {x : BinaryFloat} {value : ℚ} (hx : x.HasValue value) : 0 ≤ value := by
  obtain ⟨mantissa, exponent, rfl, rfl⟩ := hx.exists_finite
  positivity

/-- Cutting to a whole number keeps which whole numbers a value reaches. -/
theorem HasValue.le_truncate_iff {x : BinaryFloat} {value : ℚ} (hx : x.HasValue value) {goal : Nat}
    (small : (goal : Int) ≤ Signed32.greatest) : (goal : Int) ≤ x.truncate ↔ (goal : ℚ) ≤ value := by
  obtain ⟨mantissa, exponent, rfl, rfl⟩ := hx.exists_finite
  have saturated (whole : Nat) : (goal : Int) ≤ Signed32.saturate whole ↔ goal ≤ whole := by
    simp only [Signed32.saturate, Signed32.greatest, Signed32.least] at small ⊢
    omega
  cases exponent with
  | ofNat up =>
    simp only [truncate, Bool.false_eq_true, if_false, saturated, Nat.shiftLeft_eq,
      Int.ofNat_eq_natCast, zpow_natCast]
    exact_mod_cast Iff.rfl
  | negSucc down =>
    simp only [truncate, Bool.false_eq_true, if_false, saturated, Nat.shiftRight_eq_div_pow, zpow_negSucc]
    rw [Nat.le_div_iff_mul_le (by positivity), ← div_eq_mul_inv, le_div_iff₀ (by positivity)]
    exact_mod_cast Iff.rfl

/-- A whole number within the precision is held as it is. -/
theorem hasValue_ofInt {whole : Nat} (narrow : whole < 2 ^ 24) :
    (ofInt .single whole).HasValue whole := by
  rw [ofInt_natCast]
  rcases Nat.eq_zero_or_pos whole with rfl | positive
  · rw [round_zero]
    simp only [HasValue, Nat.cast_zero, zero_mul]
  · obtain ⟨down, held⟩ := round_whole single_holdsWhole false positive narrow
    rw [held]
    simp only [HasValue, zpow_neg, zpow_natCast]
    push_cast
    field_simp

theorem rounds_ofInt (whole : Nat) : Rounds whole (ofInt .single whole) :=
  ⟨whole, 1, Nat.one_pos, by rw [Nat.cast_one, div_one], ofInt_natCast .single whole⟩

theorem rounds_inUnits (num : Nat) {den : Nat} (exponent : Int) (den_pos : 0 < den) {quotient : ℚ}
    (same : (num : ℚ) / den / 2 ^ exponent = quotient) :
    Rounds quotient (round .single false (inUnits num den exponent).1 (inUnits num den exponent).2) :=
  ⟨_, _, inUnits_den_pos num exponent den_pos, (inUnits_quotient num den exponent).trans same, rfl⟩

section

variable {x y : BinaryFloat} {a b : ℚ} (hx : x.HasValue a) (hy : y.HasValue b)

include hx hy

theorem rounds_mul : Rounds (a * b) (mul .single x y) := by
  obtain ⟨m₁, e₁, rfl, rfl⟩ := hx.exists_finite
  obtain ⟨m₂, e₂, rfl, rfl⟩ := hy.exists_finite
  simp only [mul, bne_self_eq_false]
  refine rounds_inUnits (m₁ * m₂) (-(e₁ + e₂)) Nat.one_pos ?_
  rw [Nat.cast_one, div_one, zpow_neg, div_inv_eq_mul, zpow_add₀ two_ne_zero]
  push_cast
  ring

theorem rounds_div (b_pos : 0 < b) : Rounds (a / b) (div .single x y) := by
  obtain ⟨m₁, e₁, rfl, rfl⟩ := hx.exists_finite
  obtain ⟨m₂, e₂, rfl, rfl⟩ := hy.exists_finite
  have nonzero : m₂ ≠ 0 := by
    rintro rfl
    rw [Nat.cast_zero, zero_mul] at b_pos
    exact lt_irrefl 0 b_pos
  simp only [div, nonzero, if_false, bne_self_eq_false]
  refine rounds_inUnits m₁ (e₂ - e₁) (Nat.pos_of_ne_zero nonzero) ?_
  rw [zpow_sub₀ two_ne_zero]
  field_simp

end

namespace Rounds

variable {x y : BinaryFloat} {quotient : ℚ} (hx : Rounds quotient x)

include hx

theorem eq (hy : Rounds quotient y) (positive : 0 < quotient) : x = y := by
  obtain ⟨num, den, den_pos, rfl, rfl⟩ := hx
  obtain ⟨num', den', den_pos', same, rfl⟩ := hy
  have num_pos : 0 < num := by
    apply Nat.pos_of_ne_zero
    rintro rfl
    rw [Nat.cast_zero, zero_div] at positive
    exact lt_irrefl 0 positive
  have num_pos' : 0 < num' := by
    apply Nat.pos_of_ne_zero
    rintro rfl
    rw [← same, Nat.cast_zero, zero_div] at positive
    exact lt_irrefl 0 positive
  exact round_congr .single false num_pos den_pos num_pos' den_pos' same.symm

/-- Away from an overflow the relative error is at most half a unit of the last place, and however small the
quotient is, hardly anything comes on top of that. -/
theorem error (high : quotient < 2 ^ 100) :
    ∃ value, x.HasValue value ∧ |value - quotient| ≤ quotient / 2 ^ 24 + 1 / 2 ^ 100 := by
  obtain ⟨num, den, den_pos, rfl, rfl⟩ := hx
  obtain ⟨mantissa, exponent, rounded, error⟩ := round_error .single false num den_pos (by decide)
    (lt_trans high (by norm_num [FloatFormat.single]))
  refine ⟨(mantissa : ℚ) * 2 ^ exponent, ?_, error.trans ?_⟩
  · rw [rounded]
    rfl
  · simp only [FloatFormat.single]
    gcongr
    norm_num

end Rounds

end PadBench.BinaryFloat
