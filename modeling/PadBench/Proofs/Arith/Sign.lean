import PadBench.Proofs.Arith.Rounding

/-!
The signs of rounded values and of the whole numbers they are cut to.

* `hasSign_mul`, `hasSign_div`: the sign of a result comes of the signs of the operands alone;
* `truncate_nonneg`, `truncate_nonpos`: a value is cut to a whole number on its side of zero;
* `truncate_mul_nonpos`: a factor without a minus sign leaves a whole number on its side.
-/
namespace PadBench.BinaryFloat

/-- Not-a-number, or a value with that sign. A zero has a sign too. -/
def HasSign (negative : Bool) : BinaryFloat → Prop
  | .nan => True
  | .infinite sign | .finite sign _ _ => sign = negative

section

variable (format : FloatFormat)

theorem hasSign_round (negative : Bool) (num den : Nat) :
    (round format negative num den).HasSign negative := by
  unfold round
  split
  · rfl
  · dsimp only
    split <;> rfl

theorem hasSign_ofInt (value : Int) : (ofInt format value).HasSign (decide (value < 0)) :=
  hasSign_round format _ _ _

theorem hasSign_mul {n₁ n₂ : Bool} {x y : BinaryFloat} (hx : x.HasSign n₁) (hy : y.HasSign n₂) :
    (mul format x y).HasSign (n₁ != n₂) := by
  match x, y, hx, hy with
  | .finite _ _ _, .finite _ _ _, rfl, rfl => exact hasSign_round format _ _ _
  | .nan, _, _, _ | .finite _ _ _, .nan, _, _ | .infinite _, .nan, _, _ => trivial
  | .infinite _, .infinite _, rfl, rfl => rfl
  | .infinite _, .finite _ m _, rfl, rfl =>
    simp only [mul]
    split
    · trivial
    · rfl
  | .finite _ m _, .infinite _, rfl, rfl =>
    simp only [mul]
    split
    · trivial
    · exact bne_comm

theorem hasSign_div {n₁ n₂ : Bool} {x y : BinaryFloat} (hx : x.HasSign n₁) (hy : y.HasSign n₂) :
    (div format x y).HasSign (n₁ != n₂) := by
  match x, y, hx, hy with
  | .finite _ _ _, .finite _ m₂ _, rfl, rfl =>
    simp only [div]
    split
    · split
      · trivial
      · rfl
    · exact hasSign_round format _ _ _
  | .nan, _, _, _ | .finite _ _ _, .nan, _, _ | .infinite _, .nan, _, _ => trivial
  | .infinite _, .infinite _, _, _ => trivial
  | .infinite _, .finite _ _ _, rfl, rfl | .finite _ _ _, .infinite _, rfl, rfl => rfl

/-- The quotient of two whole numbers that are not negative has no minus sign. -/
theorem hasSign_quotient {target span : Int} (target_nonneg : 0 ≤ target) (span_nonneg : 0 ≤ span) :
    (div format (ofInt format target) (ofInt format span)).HasSign false := by
  have signs := hasSign_div format (hasSign_ofInt format target) (hasSign_ofInt format span)
  rwa [decide_eq_false (by omega), decide_eq_false (by omega)] at signs

end

theorem truncate_le_greatest (value : BinaryFloat) : value.truncate ≤ Signed32.greatest := by
  cases value with
  | nan => decide
  | infinite negative => cases negative <;> decide
  | finite negative mantissa exponent => exact Signed32.saturate_le_greatest _

theorem truncate_nonneg {value : BinaryFloat} (plus : value.HasSign false) : 0 ≤ value.truncate := by
  match value, plus with
  | .nan, _ => exact Int.le_refl 0
  | .infinite _, rfl => decide
  | .finite _ mantissa exponent, rfl =>
    simp only [truncate, Bool.false_eq_true, if_false, Signed32.saturate, Signed32.least, Signed32.greatest]
    omega

theorem truncate_nonpos {value : BinaryFloat} (minus : value.HasSign true) : value.truncate ≤ 0 := by
  match value, minus with
  | .nan, _ => exact Int.le_refl 0
  | .infinite _, rfl => decide
  | .finite _ mantissa exponent, rfl =>
    simp only [truncate, if_true, Signed32.saturate, Signed32.least, Signed32.greatest]
    omega

/-- A factor without a minus sign leaves a whole number that is not positive on its side of zero. -/
theorem truncate_mul_nonpos {count : Int} (nonpos : count ≤ 0) {factor : BinaryFloat}
    (plus : factor.HasSign false) : (mul .single (ofInt .single count) factor).truncate ≤ 0 := by
  rcases Int.lt_or_eq_of_le nonpos with negative | rfl
  · have signs := hasSign_mul .single (hasSign_ofInt .single count) plus
    rw [decide_eq_true negative] at signs
    exact truncate_nonpos signs
  · have zero : ofInt .single 0 = .finite false 0 (-149) := by decide
    have nothing : (mul .single (ofInt .single 0) factor).truncate = 0 := by
      rw [zero, truncate_zero_mul]
    exact Int.le_of_eq nothing

end PadBench.BinaryFloat
