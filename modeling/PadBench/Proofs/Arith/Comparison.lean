import Mathlib.Algebra.Order.Field.Power
import Mathlib.Data.Rat.Cast.Order
import Mathlib.Order.Interval.Set.Defs
import Mathlib.Tactic.Positivity
import Mathlib.Tactic.Ring
import PadBench.Arith.BinaryFloat

/-!
Floating-point values are ordered as the numbers they stand for.

* `lt_iff`: the comparison of finite values is that of their numbers;
* `liesIn_Ico_iff`, `liesIn_Icc_iff`: a value lies in an interval if no comparison with its ends excludes it;
* `clamp_eq_self_iff`: clamping leaves alone just what neither end excludes.
-/
namespace PadBench.BinaryFloat

/-- The number a finite value stands for; both zeros stand for the same one. -/
def number? : BinaryFloat → Option ℚ
  | .finite negative mantissa exponent => some ((if negative then -(mantissa : ℚ) else mantissa) * 2 ^ exponent)
  | _ => none

/-- The value stands for a number of the set. -/
def LiesIn (value : BinaryFloat) (range : Set ℚ) : Prop := ∃ number ∈ range, value.number? = some number

variable {x y value low high : BinaryFloat} {a b : ℚ}

theorem exists_finite_of_number? (stands : x.number? = some a) :
    ∃ negative mantissa exponent, x = .finite negative mantissa exponent ∧
      (if negative then -(mantissa : ℚ) else mantissa) * 2 ^ exponent = a := by
  cases x with
  | finite negative mantissa exponent => exact ⟨negative, mantissa, exponent, rfl, Option.some.inj stands⟩
  | nan | infinite => cases stands

theorem signedUnits_mul (negative : Bool) (mantissa : Nat) {exponent unit : Int} (le : unit ≤ exponent) :
    (signedUnits negative mantissa exponent unit : ℚ) * 2 ^ unit =
      (if negative then -(mantissa : ℚ) else mantissa) * 2 ^ exponent := by
  have power : (2 : ℚ) ^ (exponent - unit).toNat * 2 ^ unit = 2 ^ exponent := by
    rw [← zpow_natCast, ← zpow_add₀ two_ne_zero, Int.toNat_of_nonneg (by omega), Int.sub_add_cancel]
  rw [← power, signedUnits, Nat.shiftLeft_eq]
  cases negative <;> simp only [Bool.false_eq_true, if_false, if_true] <;> push_cast <;> ring

theorem lt_iff (hx : x.number? = some a) (hy : y.number? = some b) : x.lt y = true ↔ a < b := by
  obtain ⟨n₁, m₁, e₁, rfl, rfl⟩ := exists_finite_of_number? hx
  obtain ⟨n₂, m₂, e₂, rfl, rfl⟩ := exists_finite_of_number? hy
  have unit_pos : (0 : ℚ) < 2 ^ min e₁ e₂ := by positivity
  rw [lt, decide_eq_true_eq, ← signedUnits_mul n₁ m₁ (min_le_left e₁ e₂),
    ← signedUnits_mul n₂ m₂ (min_le_right e₁ e₂), mul_lt_mul_iff_left₀ unit_pos]
  exact Int.cast_lt.symm

theorem lt_eq_false_iff (hx : x.number? = some a) (hy : y.number? = some b) : x.lt y = false ↔ b ≤ a := by
  rw [← Bool.not_eq_true, lt_iff hx hy, not_lt]

theorem lt_self (x : BinaryFloat) : x.lt x = false := by
  cases x with
  | nan => rfl
  | infinite negative => cases negative <;> rfl
  | finite negative mantissa exponent => exact (lt_eq_false_iff rfl rfl).mpr le_rfl

theorem lt_eq_false_of_lt (less : x.lt y = true) : y.lt x = false := by
  match x, y with
  | .nan, _ => cases less
  | .finite .., .nan | .infinite _, .nan => cases less
  | .infinite false, .infinite _ | .infinite true, .infinite true => cases less
  | .infinite false, .finite .. | .finite .., .infinite true => cases less
  | .infinite true, .infinite false | .infinite true, .finite .. | .finite .., .infinite false => rfl
  | .finite n₁ m₁ e₁, .finite n₂ m₂ e₂ =>
    exact (lt_eq_false_iff rfl rfl).mpr ((lt_iff rfl rfl).mp less).le

theorem ne_nan_of_number? (stands : x.number? = some a) : x ≠ .nan := by
  rintro rfl
  cases stands

section

variable (hlow : low.number? = some a) (hhigh : high.number? = some b)

include hlow hhigh

/-- What no comparison with two numbers excludes is a number, unless it is none at all. -/
theorem exists_number? (some : value ≠ .nan) (above : value.lt low = false) (below : high.lt value = false) :
    ∃ number, value.number? = Option.some number := by
  obtain ⟨_, _, _, rfl, _⟩ := exists_finite_of_number? hlow
  obtain ⟨_, _, _, rfl, _⟩ := exists_finite_of_number? hhigh
  cases value with
  | nan => exact absurd rfl some
  | infinite negative =>
    cases negative
    · cases below
    · cases above
  | finite negative mantissa exponent => exact ⟨_, rfl⟩

theorem liesIn_Icc_iff :
    value.LiesIn (Set.Icc a b) ↔ value ≠ .nan ∧ value.lt low = false ∧ high.lt value = false := by
  constructor
  · rintro ⟨number, ⟨above, below⟩, stands⟩
    exact ⟨ne_nan_of_number? stands, (lt_eq_false_iff stands hlow).mpr above,
      (lt_eq_false_iff hhigh stands).mpr below⟩
  · rintro ⟨some, above, below⟩
    obtain ⟨number, stands⟩ := exists_number? hlow hhigh some above below
    exact ⟨number, ⟨(lt_eq_false_iff stands hlow).mp above, (lt_eq_false_iff hhigh stands).mp below⟩, stands⟩

theorem liesIn_Ico_iff :
    value.LiesIn (Set.Ico a b) ↔ value ≠ .nan ∧ value.lt low = false ∧ value.lt high = true := by
  constructor
  · rintro ⟨number, ⟨above, below⟩, stands⟩
    exact ⟨ne_nan_of_number? stands, (lt_eq_false_iff stands hlow).mpr above, (lt_iff stands hhigh).mpr below⟩
  · rintro ⟨some, above, below⟩
    obtain ⟨number, stands⟩ := exists_number? hlow hhigh some above (lt_eq_false_of_lt below)
    exact ⟨number, ⟨(lt_eq_false_iff stands hlow).mp above, (lt_iff stands hhigh).mp below⟩, stands⟩

end

/-- Clamping keeps the value that it is given, and not another one in its place, if neither end excludes it. -/
theorem clamp_eq_self_iff :
    value.clamp low high = value ↔ value.lt low = false ∧ high.lt value = false := by
  rw [clamp]
  split
  · rename_i short
    refine iff_of_false ?_ fun ⟨above, _⟩ => Bool.false_ne_true (above.symm.trans short)
    rintro rfl
    exact Bool.false_ne_true ((lt_self _).symm.trans short)
  · rename_i above
    split
    · rename_i past
      refine iff_of_false ?_ fun ⟨_, below⟩ => Bool.false_ne_true (below.symm.trans past)
      rintro rfl
      exact Bool.false_ne_true ((lt_self _).symm.trans past)
    · rename_i below
      exact iff_of_true rfl ⟨Bool.not_eq_true _ ▸ above, Bool.not_eq_true _ ▸ below⟩

end PadBench.BinaryFloat
