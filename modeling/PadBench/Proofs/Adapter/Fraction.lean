import Mathlib.Algebra.Group.Int.Defs
import PadBench.Adapter.Model
import PadBench.Proofs.Arith.Comparison
import PadBench.Proofs.Arith.Rounding

/-!
The deadzone of an adapter: whatever fraction it is built with, the dead part of a travel is between
nothing and the whole travel.
-/
namespace PadBench.Adapter

theorem greatestFraction_eq : greatestFraction = .finite false 16743662 (-25) := by decide

theorem least_eq : BinaryFloat.ofInt .single 0 = .finite false 0 (-149) := by decide

theorem signedUnits_of_nonneg (mantissa : Nat) (exponent unit : Int) :
    BinaryFloat.signedUnits false mantissa exponent unit =
      ((mantissa * 2 ^ (exponent - unit).toNat : Nat) : Int) := by
  simp [BinaryFloat.signedUnits, Nat.shiftLeft_eq]

/-- A positive value up to the greatest fraction is less than one half. -/
theorem isHalfShare_of_le {mantissa : Nat} {exponent : Int}
    (low : greatestFraction.lt (.finite false mantissa exponent) = false) :
    BinaryFloat.IsHalfShare (.finite false mantissa exponent) := by
  simp only [greatestFraction_eq, BinaryFloat.lt, decide_eq_false_iff_not, Int.not_lt,
    signedUnits_of_nonneg] at low
  have low := Int.ofNat_le.mp low
  have bound : 2 * 16743662 * 2 ^ (-25 - min (-25) exponent).toNat <
      2 ^ 25 * 2 ^ (-25 - min (-25) exponent).toNat :=
    Nat.mul_lt_mul_of_pos_right (by decide) (Nat.pow_pos (by decide))
  by_cases large : 0 ≤ exponent
  · have top : min (-25) exponent = -25 := by omega
    obtain ⟨up, hup⟩ : ∃ up : Nat, (exponent - min (-25) exponent).toNat = 25 + up :=
      ⟨exponent.toNat, by omega⟩
    have empty : mantissa = 0 := by
      apply Nat.eq_zero_of_not_pos
      intro positive
      have : 2 ^ 25 ≤ mantissa * 2 ^ (25 + up) := by
        calc 2 ^ 25 ≤ 2 ^ (25 + up) := Nat.pow_le_pow_right (by decide) (by omega)
          _ ≤ mantissa * 2 ^ (25 + up) := Nat.le_mul_of_pos_left _ positive
      rw [hup] at low
      rw [top] at low bound
      simp only [Int.sub_self, Int.toNat_zero, Nat.pow_zero, Nat.mul_one] at low bound
      omega
    subst empty
    exact .zero _ _
  · obtain ⟨down, rfl⟩ : ∃ down : Nat, exponent = -(down : Int) := ⟨(-exponent).toNat, by omega⟩
    refine .part _ _ (Nat.le_of_lt ?_)
    have same : (-25 - min (-25) (-(down : Int))).toNat + 25 =
        (-(down : Int) - min (-25) (-(down : Int))).toNat + down := by omega
    have strict : 2 * mantissa * 2 ^ (-(down : Int) - min (-25) (-(down : Int))).toNat <
        2 ^ down * 2 ^ (-(down : Int) - min (-25) (-(down : Int))).toNat := by
      calc 2 * mantissa * 2 ^ (-(down : Int) - min (-25) (-(down : Int))).toNat
          = 2 * (mantissa * 2 ^ (-(down : Int) - min (-25) (-(down : Int))).toNat) := Nat.mul_assoc ..
        _ ≤ 2 * (16743662 * 2 ^ (-25 - min (-25) (-(down : Int))).toNat) := Nat.mul_le_mul_left 2 low
        _ = 2 * 16743662 * 2 ^ (-25 - min (-25) (-(down : Int))).toNat := (Nat.mul_assoc ..).symm
        _ < _ := bound
        _ = _ := by rw [← Nat.pow_add, ← Nat.pow_add, Nat.add_comm, same, Nat.add_comm]
    exact Nat.lt_of_mul_lt_mul_right strict

/-- A fraction that is not below 0 nor above the greatest one: an adapter is built with it as it is. -/
def IsAdmissible (fraction : BinaryFloat) : Prop :=
  fraction.lt (.ofInt .single 0) = false ∧ greatestFraction.lt fraction = false

instance (fraction : BinaryFloat) : Decidable (IsAdmissible fraction) :=
  inferInstanceAs (Decidable (_ ∧ _))

theorem withFraction_fraction_eq_iff (source : SourceProfile) (wired : WiredProfile) {fraction : BinaryFloat} :
    (withFraction source wired fraction).fraction = fraction ↔ IsAdmissible fraction :=
  BinaryFloat.clamp_eq_self_iff

theorem isHalfShare_of_admissible {fraction : BinaryFloat} (admissible : IsAdmissible fraction) :
    fraction.IsHalfShare := by
  obtain ⟨above, below⟩ := admissible
  cases fraction with
  | nan => exact .nan
  | infinite negative =>
    cases negative <;> simp [BinaryFloat.lt, least_eq, greatestFraction_eq] at above below
  | finite negative mantissa exponent =>
    cases negative with
    | false => exact isHalfShare_of_le below
    | true =>
      have empty : mantissa = 0 := by
        simp only [least_eq, BinaryFloat.lt, BinaryFloat.signedUnits, decide_eq_false_iff_not,
          Int.not_lt, Nat.shiftLeft_eq, if_true] at above
        have zero : mantissa * 2 ^ (exponent - min exponent (-149)).toNat = 0 := by
          generalize mantissa * 2 ^ (exponent - min exponent (-149)).toNat = units at above ⊢
          simp only [Nat.zero_mul, Int.natCast_zero, Bool.false_eq_true, if_false] at above
          omega
        exact (Nat.mul_eq_zero.mp zero).resolve_right (Nat.pos_iff_ne_zero.mp (Nat.pow_pos (by decide)))
      subst empty
      exact .zero _ _

/-- Every adapter is built with less than one half as its fraction. -/
theorem withFraction_isHalfShare (source : SourceProfile) (wired : WiredProfile) (fraction : BinaryFloat) :
    (withFraction source wired fraction).fraction.IsHalfShare := by
  simp only [withFraction, BinaryFloat.clamp]
  split
  · rw [least_eq]; exact .zero _ _
  split
  · rw [greatestFraction_eq]
    exact .part 16743662 25 (by decide)
  rename_i above below
  exact isHalfShare_of_admissible ⟨Bool.not_eq_true _ ▸ above, Bool.not_eq_true _ ▸ below⟩

/-- Every adapter is built with a share as its fraction. -/
theorem withFraction_isShare (source : SourceProfile) (wired : WiredProfile) (fraction : BinaryFloat) :
    (withFraction source wired fraction).fraction.IsShare :=
  (withFraction_isHalfShare source wired fraction).isShare

end PadBench.Adapter

namespace PadBench.Response

/-- Within the range of its numbers a deadzone is its two parts together. -/
theorem deadzone_eq {travel fixed : Int} {fraction : BinaryFloat}
    (low : Signed32.least ≤ share travel fraction + fixed)
    (high : share travel fraction + fixed ≤ Signed32.greatest) :
    deadzone travel fixed fraction = share travel fraction + fixed :=
  Signed32.wrap_of_mem low high

/-- The dead share of a travel is no longer than the travel. -/
theorem share_le {fraction : BinaryFloat} (isShare : fraction.IsShare) {travel : Int}
    (nonneg : 0 ≤ travel) (narrow : travel < 2 ^ 24) :
    0 ≤ share travel fraction ∧ share travel fraction ≤ travel := by
  obtain ⟨whole, rfl⟩ := Int.eq_ofNat_of_zero_le nonneg
  have short : whole < 2 ^ 24 := by omega
  exact BinaryFloat.truncate_mul_le isShare short

section Half

variable {fraction : BinaryFloat} (half : fraction.IsHalfShare) {travel fixed : Int}
  (travels : 0 ≤ travel ∧ travel < 2 ^ 24)

include half travels

/-- A fraction below one half leaves the other half of a travel. -/
theorem share_le_half : 0 ≤ share travel fraction ∧ 2 * share travel fraction ≤ travel + 1 := by
  obtain ⟨whole, rfl⟩ := Int.eq_ofNat_of_zero_le travels.1
  have short : whole < 2 ^ 24 := by omega
  have bounds := BinaryFloat.truncate_mul_le_half half short
  simp only [share]
  omega

/-- The parts of a short deadzone are within the range together. -/
theorem deadzone_eq_of_short (fixes : 0 ≤ fixed ∧ fixed < 2 ^ 24) :
    deadzone travel fixed fraction = share travel fraction + fixed := by
  have bounds := share_le_half half travels
  exact deadzone_eq (by rw [Signed32.least]; omega) (by rw [Signed32.greatest]; omega)

/-- What a short deadzone leaves of the travel, its fixed part does not take from the other half. -/
theorem deadzone_le_half (fixes : 0 ≤ fixed ∧ fixed < 2 ^ 24) :
    fixed ≤ deadzone travel fixed fraction ∧ 2 * (deadzone travel fixed fraction - fixed) ≤ travel + 1 := by
  have bounds := share_le_half half travels
  rw [deadzone_eq_of_short half travels fixes]
  omega

end Half

end PadBench.Response
