import PadBench.Proofs.Arith.Order

/-!
The same share of two whole numbers.

* `truncate_share_mono`: of the greater number it is not cut to less;
* `truncate_share_le_add`: up to one half, it is not cut to more of the greater one than the smaller one's share
  and all that lies between them.
-/
namespace PadBench.BinaryFloat

variable {share : BinaryFloat}

theorem truncate_share_mono (isHalf : share.IsHalfShare) {part whole : Int} (nonneg : 0 ≤ part)
    (le : part ≤ whole) :
    (mul .single share (ofInt .single part)).truncate ≤ (mul .single share (ofInt .single whole)).truncate := by
  cases isHalf with
  | nan => rw [truncate_nan_mul, truncate_nan_mul]
  | zero negative exponent => rw [truncate_zero_mul, truncate_zero_mul]
  | part mantissa down le_half =>
    rw [mul_symm, mul_symm _ _ (ofInt .single whole)]
    exact truncate_mul_mono (ofInt_upTo nonneg le) rfl

/-- Values that are at most a whole number apart are cut to no more than that apart. -/
theorem truncate_le_add {x y : BinaryFloat} {a b : ℚ} (hx : x.HasValue a) (hy : y.HasValue b) {more : Nat}
    (le : b ≤ a + more) : y.truncate ≤ x.truncate + more := by
  have nonneg {z : BinaryFloat} {c : ℚ} (hz : z.HasValue c) : 0 ≤ z.truncate := by
    obtain ⟨mantissa, exponent, rfl, _⟩ := hz.exists_finite
    exact truncate_nonneg rfl
  obtain ⟨cut, hcut⟩ := Int.eq_ofNat_of_zero_le (nonneg hx)
  obtain ⟨cut', hcut'⟩ := Int.eq_ofNat_of_zero_le (nonneg hy)
  have small := truncate_le_greatest y
  rw [hcut'] at small
  apply Int.not_lt.mp
  intro past
  have missed := mt (hx.le_truncate_iff (by omega : ((cut + 1 : Nat) : Int) ≤ Signed32.greatest)).mpr (by omega)
  have reached := (hy.le_truncate_iff small).mp hcut'.ge
  have far : (cut : ℚ) + more + 1 ≤ cut' := by
    rw [hcut, hcut'] at past
    exact_mod_cast past
  push_cast at missed
  linarith

/-- Up to one half of two numbers, each rounded twice, differs by no more than the numbers do. -/
theorem share_near {φ p w a b : ℚ} {part whole : Nat} (nonneg : 0 ≤ φ) (half : φ ≤ 1 / 2)
    (le : (part : ℚ) + 1 ≤ whole) (close : (whole : ℚ) ≤ 20 * (whole - part))
    (hp : |p - part| ≤ part / 2 ^ 24 + 1 / 2 ^ 100) (hw : |w - whole| ≤ whole / 2 ^ 24 + 1 / 2 ^ 100)
    (ha : |a - φ * p| ≤ φ * p / 2 ^ 24 + 1 / 2 ^ 100)
    (hb : |b - φ * w| ≤ φ * w / 2 ^ 24 + 1 / 2 ^ 100) : b - a ≤ whole - part := by
  obtain ⟨p_low, p_high⟩ := abs_le.mp hp
  obtain ⟨w_low, w_high⟩ := abs_le.mp hw
  obtain ⟨a_low, _⟩ := abs_le.mp ha
  obtain ⟨_, b_high⟩ := abs_le.mp hb
  have part_nonneg : (0 : ℚ) ≤ part := by positivity
  have apart : φ * (w - p) ≤
      1 / 2 * (whole - part + (part / 2 ^ 24 + whole / 2 ^ 24 + 2 / 2 ^ 100)) := by
    calc φ * (w - p) ≤ φ * (whole - part + (part / 2 ^ 24 + whole / 2 ^ 24 + 2 / 2 ^ 100)) := by
          gcongr
          linarith
      _ ≤ 1 / 2 * (whole - part + (part / 2 ^ 24 + whole / 2 ^ 24 + 2 / 2 ^ 100)) := by
          gcongr
          have : (0 : ℚ) ≤ part / 2 ^ 24 := by positivity
          have : (0 : ℚ) ≤ whole / 2 ^ 24 := by positivity
          linarith
  have sizes : φ * (w + p) ≤ 1 / 2 * (2 * (whole + part + 1)) := by
    calc φ * (w + p) ≤ φ * (2 * (whole + part + 1)) := by
          gcongr
          linarith
      _ ≤ 1 / 2 * (2 * (whole + part + 1)) := by gcongr
  rw [mul_sub] at apart
  rw [mul_add] at sizes
  linarith

/-- Up to one half of a number, cut to a whole one, exceeds that of a number not much smaller by no more than
what lies between the two. -/
theorem truncate_share_le_add (isHalf : share.IsHalfShare) {part whole : Nat} (less : part < whole)
    (close : whole ≤ 20 * (whole - part)) (short : whole < 2 ^ 39) :
    (mul .single share (ofInt .single whole)).truncate ≤
      (mul .single share (ofInt .single part)).truncate + (whole - part) := by
  cases isHalf with
  | nan =>
    rw [truncate_nan_mul, truncate_nan_mul]
    omega
  | zero negative exponent =>
    rw [truncate_zero_mul, truncate_zero_mul]
    omega
  | part mantissa down le_half =>
    have hφ := hasValue_finite mantissa (-(down : Int))
    have half : (mantissa : ℚ) * 2 ^ (-(down : Int)) ≤ 1 / 2 := by
      rw [zpow_neg, zpow_natCast, ← div_eq_mul_inv, div_le_div_iff₀ (by positivity) two_pos]
      have : (2 : ℚ) * mantissa ≤ 2 ^ down := by exact_mod_cast le_half
      linarith
    have whole_high : (whole : ℚ) < 2 ^ 39 := by exact_mod_cast short
    have le_rat : (part : ℚ) + 1 ≤ whole := by exact_mod_cast less
    have close_rat : (whole : ℚ) ≤ 20 * (whole - part) := by
      rw [← Nat.cast_sub less.le]
      exact_mod_cast close
    obtain ⟨p, hp, p_near⟩ := (rounds_ofInt part).error (by linarith)
    obtain ⟨w, hw, w_near⟩ := (rounds_ofInt whole).error (by linarith)
    have reach {q : ℚ} (nonneg : 0 ≤ q) (high : q < 2 ^ 40) :
        (mantissa : ℚ) * 2 ^ (-(down : Int)) * q < 2 ^ 100 := by
      calc (mantissa : ℚ) * 2 ^ (-(down : Int)) * q ≤ 1 / 2 * 2 ^ 40 := by gcongr
        _ < 2 ^ 100 := by norm_num
    have p_high : p < 2 ^ 40 := by linarith [(abs_le.mp p_near).2]
    have w_high : w < 2 ^ 40 := by linarith [(abs_le.mp w_near).2]
    obtain ⟨a, ha, a_near⟩ := (rounds_mul hφ hp).error (reach hp.nonneg p_high)
    obtain ⟨b, hb, b_near⟩ := (rounds_mul hφ hw).error (reach hw.nonneg w_high)
    have between := share_near hφ.nonneg half le_rat close_rat p_near w_near a_near b_near
    have apart : b ≤ a + (whole - part : Nat) := by
      rw [Nat.cast_sub less.le]
      linarith
    have cut := truncate_le_add ha hb apart
    omega

end PadBench.BinaryFloat
