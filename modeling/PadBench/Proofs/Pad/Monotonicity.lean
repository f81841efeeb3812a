import PadBench.Proofs.Arith.Order
import PadBench.Proofs.Pad.Calibration
import PadBench.Proofs.Pad.Checked
import PadBench.Proofs.Wired.Storage

/-!
Short of the full travel the scaled value of an axis runs one way.

A side answers its deadzone with 0 and everything past it by one regime, so what is compared is two
sizes scaled by one factor. The regime changes at the full travel only. A sum that wraps would break the order, so
all of this is about samples that no operation leaves the range for.

* `deflection_mono`: of two displacements to one side the farther one is not answered by less;
* `sample_mapped_mono`: so is it along the whole axis, whatever its polarities and its storage range.
-/
namespace PadBench

namespace StorageRange

variable {range : StorageRange} (proper : range.least ≤ range.greatest)

include proper

theorem clamp_eq (value : Int) : range.clamp value = max range.least (min value range.greatest) := by
  unfold clamp
  split
  · omega
  · split <;> omega

/-- In either polarity a storage range keeps the order of the values that it bounds. -/
theorem clamp_mono {side : Int} (unit : side = 1 ∨ side = -1) {a b : Int} (le : side * a ≤ side * b) :
    side * range.clamp a ≤ side * range.clamp b := by
  rw [clamp_eq proper, clamp_eq proper]
  rcases unit with rfl | rfl <;> omega

end StorageRange

namespace Response

/-- How far the console's axis is deflected to one side by a displacement of `magnitude` to it. -/
def deflection (travel target fixed : Int) (fraction : BinaryFloat) (magnitude : Int) : Int :=
  let dead := deadzone travel fixed fraction
  if magnitude ≤ dead ∨ travel ≤ dead then 0
  else max ((regime magnitude travel target fixed fraction).apply magnitude) 0

section

variable {travel target fixed magnitude : Int} {fraction : BinaryFloat}

theorem deflection_nonneg (magnitude : Int) : 0 ≤ deflection travel target fixed fraction magnitude := by
  unfold deflection
  dsimp only
  split
  · exact le_refl 0
  · exact le_max_right _ _

/-- A displacement past the deadzone is scaled by the span that carries it. -/
theorem deflection_of_live (live : ¬ (magnitude ≤ deadzone travel fixed fraction ∨
      travel ≤ deadzone travel fixed fraction))
    (carries : (span magnitude travel fixed fraction).Carries magnitude) :
    deflection travel target fixed fraction magnitude =
      max (BinaryFloat.scaled (magnitude - (span magnitude travel fixed fraction).dead) target
        ((span magnitude travel fixed fraction).travel - (span magnitude travel fixed fraction).dead)) 0 := by
  unfold deflection
  dsimp only
  rw [if_neg live, apply_regime carries]

/-- Short of the full travel the span is one for all magnitudes. -/
theorem span_eq_of_short {a b : Int} (short : a < travel) (short' : b < travel) :
    span a travel fixed fraction = span b travel fixed fraction := by
  simp only [span, not_le.mpr short, not_le.mpr short', false_or]

/-- What lies past the start of a span is scaled to no less the farther it lies. -/
theorem scaled_mono {past past' units left : Int} (units_nonneg : 0 ≤ units) (positive : 0 < left)
    (le : past ≤ past') :
    max (BinaryFloat.scaled past units left) 0 ≤ max (BinaryFloat.scaled past' units left) 0 := by
  have plus : (BinaryFloat.div .single (.ofInt .single units) (.ofInt .single left)).HasSign false :=
    BinaryFloat.hasSign_quotient .single units_nonneg positive.le
  by_cases inside : 0 ≤ past
  · have ordered := BinaryFloat.truncate_mul_mono (BinaryFloat.ofInt_upTo inside le) plus
    exact max_le_max_right 0 ordered
  · have nothing := BinaryFloat.truncate_mul_nonpos (not_le.mp inside).le plus
    exact max_le ((nothing.trans (le_max_right _ _))) (le_max_right _ _)

/-- Of two displacements to one side, both short of the full travel, the farther one is not answered by
less. -/
theorem deflection_mono (target_nonneg : 0 ≤ target) {a b : Int} (le : a ≤ b) (short : b < travel)
    (near : ¬ (a ≤ deadzone travel fixed fraction ∨ travel ≤ deadzone travel fixed fraction) →
      (span a travel fixed fraction).Carries a)
    (far : ¬ (b ≤ deadzone travel fixed fraction ∨ travel ≤ deadzone travel fixed fraction) →
      (span b travel fixed fraction).Carries b) :
    deflection travel target fixed fraction a ≤ deflection travel target fixed fraction b := by
  by_cases dead : a ≤ deadzone travel fixed fraction ∨ travel ≤ deadzone travel fixed fraction
  · have rest : deflection travel target fixed fraction a = 0 := if_pos dead
    rw [rest]
    exact deflection_nonneg b
  · have live : ¬ (b ≤ deadzone travel fixed fraction ∨ travel ≤ deadzone travel fixed fraction) := by omega
    rw [deflection_of_live dead (near dead), deflection_of_live live (far live),
      span_eq_of_short short (le.trans_lt short)]
    exact scaled_mono target_nonneg (Int.sub_pos_of_lt (near dead).moves) (Int.sub_le_sub_right le _)

end

section

variable (axis : Axis) {source wired : Calibration} (fraction : BinaryFloat) {a b : Int}

theorem sign_unit (inverted : Bool) : axis.sign inverted = 1 ∨ axis.sign inverted = -1 := by
  rw [Axis.sign_eq]
  cases inverted
  · exact .inl rfl
  · exact .inr rfl

/-- Before a storage range bounds it, a scaled value is a deflection to the side of the generic one. -/
theorem unbounded_eq (genericValue : Int) :
    unbounded axis source wired fraction genericValue =
      axis.sign wired.inverted * genericValue.sign * deflection (source.travel genericValue)
        (wired.travel (axis.sign wired.inverted * genericValue.sign)) source.fixedDeadzone fraction
        (magnitude genericValue) := by
  unfold unbounded deflection isDead
  simp only [decide_eq_true_eq]
  split
  · rw [mul_zero]
  · rfl

/-- In the polarity of the console's axis a scaled value has the side of the generic one. -/
theorem sign_mul_unbounded (genericValue : Int) :
    axis.sign wired.inverted * unbounded axis source wired fraction genericValue =
      genericValue.sign * deflection (source.travel genericValue)
        (wired.travel (axis.sign wired.inverted * genericValue.sign)) source.fixedDeadzone fraction
        (magnitude genericValue) := by
  have square : axis.sign wired.inverted * axis.sign wired.inverted = 1 := by
    rcases sign_unit axis wired.inverted with side | side <;> rw [side] <;> rfl
  rw [unbounded_eq, ← mul_assoc, ← mul_assoc, square, one_mul]

theorem unbounded_right (right : 0 < a) :
    axis.sign wired.inverted * unbounded axis source wired fraction a =
      deflection source.positiveTravel (wired.travel (axis.sign wired.inverted)) source.fixedDeadzone fraction
        (magnitude a) := by
  rw [sign_mul_unbounded, Int.sign_eq_one_of_pos right, one_mul, mul_one, Calibration.travel,
    if_pos right.le]

theorem unbounded_left (left : a < 0) :
    axis.sign wired.inverted * unbounded axis source wired fraction a =
      -deflection source.negativeTravel (wired.travel (-axis.sign wired.inverted)) source.fixedDeadzone
        fraction (magnitude a) := by
  rw [sign_mul_unbounded, Int.sign_eq_neg_one_of_neg left, neg_one_mul, mul_neg_one, Calibration.travel,
    if_neg (not_le.mpr left)]

/-- Where nothing wraps, a displacement past the deadzone of its side is carried. -/
theorem IsInRange.carries_of_side (inRange : IsInRange axis source wired fraction a) {travel : Int}
    (side : source.travel a = travel)
    (live : ¬ (magnitude a ≤ deadzone travel source.fixedDeadzone fraction ∨
      travel ≤ deadzone travel source.fixedDeadzone fraction)) :
    (span (magnitude a) travel source.fixedDeadzone fraction).Carries (magnitude a) := by
  subst side
  exact inRange.carries (decide_eq_false live)

/-- Before a storage range bounds it, the scaled value runs one way short of the full travel. -/
theorem unbounded_mono (stored : wired.fault? = none) (le : a ≤ b) (low : -source.negativeTravel < a)
    (high : b < source.positiveTravel) (first : IsInRange axis source wired fraction a)
    (second : IsInRange axis source wired fraction b) :
    axis.sign wired.inverted * unbounded axis source wired fraction a ≤
      axis.sign wired.inverted * unbounded axis source wired fraction b := by
  have rest : axis.sign wired.inverted * unbounded axis source wired fraction 0 = 0 := by
    rw [sign_mul_unbounded, Int.sign_zero, zero_mul]
  rcases lt_trichotomy a 0 with left | rfl | right
  · rw [unbounded_left axis fraction left]
    rcases lt_trichotomy b 0 with left' | rfl | right'
    · -- To the left of the neutral the lower value is the farther one.
      rw [unbounded_left axis fraction left', Int.neg_le_neg_iff]
      refine deflection_mono (Calibration.travel_nonneg stored _) ?_ ?_
        (second.carries_of_side axis fraction (if_neg (not_le.mpr left')))
        (first.carries_of_side axis fraction (if_neg (not_le.mpr left))) <;>
        simp only [magnitude, Signed32.saturate, Signed32.least, Signed32.greatest] <;> omega
    · rw [rest]
      exact Int.neg_nonpos_of_nonneg (deflection_nonneg _)
    · rw [unbounded_right axis fraction right']
      exact (Int.neg_nonpos_of_nonneg (deflection_nonneg _)).trans (deflection_nonneg _)
  · rw [rest]
    rcases le.eq_or_lt with rfl | right'
    · rw [rest]
    · rw [unbounded_right axis fraction right']
      exact deflection_nonneg _
  · rw [unbounded_right axis fraction right, unbounded_right axis fraction (right.trans_le le)]
    refine deflection_mono (Calibration.travel_nonneg stored _) ?_ ?_
      (first.carries_of_side axis fraction (if_pos right.le))
      (second.carries_of_side axis fraction (if_pos (right.le.trans le))) <;>
      simp only [magnitude, Signed32.saturate, Signed32.least, Signed32.greatest] <;> omega

/-- Of two raw values whose displacements lie between the extremes, the one displaced farther in the positive
direction is not scaled to less in the polarity of the console's axis, if no sum or difference leaves the range on
the way to the two samples. -/
theorem sample_mapped_mono (stored : wired.fault? = none) {raw₁ raw₂ : Int}
    (ordered : generic axis source raw₁ ≤ generic axis source raw₂)
    (low : -source.negativeTravel < generic axis source raw₁)
    (high : generic axis source raw₂ < source.positiveTravel)
    (checked₁ : (sample? axis source wired fraction raw₁).isSome)
    (checked₂ : (sample? axis source wired fraction raw₂).isSome) :
    axis.sign wired.inverted * (sample axis source wired fraction raw₁).mapped ≤
      axis.sign wired.inverted * (sample axis source wired fraction raw₂).mapped := by
  have scaled := unbounded_mono axis fraction stored ordered low high (isInRange_of_isSome checked₁)
    (isInRange_of_isSome checked₂)
  change axis.sign wired.inverted * mapped axis source wired fraction (generic axis source raw₁) ≤
    axis.sign wired.inverted * mapped axis source wired fraction (generic axis source raw₂)
  cases ranged : wired.range with
  | none =>
    have free (value : Int) :
        mapped axis source wired fraction value = unbounded axis source wired fraction value := by
      unfold mapped unbounded
      rw [ranged]
    rw [free, free]
    exact scaled
  | some range =>
    have room : range.Holds 0 := Calibration.storesRest_of_sound stored ranged
    rw [mapped_eq_clamp axis source fraction ranged room, mapped_eq_clamp axis source fraction ranged room]
    exact StorageRange.clamp_mono (room.1.trans room.2) (sign_unit axis wired.inverted) scaled

end

/-- A vertical stick that reads 0 at the top, from nearly the bottom to nearly the top. -/
theorem sample_mapped_mono_across_neutral :
    Wired.Axes.nintendo64Stick.fault? = none ∧
      generic .ly Wireless.Axes.byteStickVertical 0xFE = -126 ∧
      generic .ly Wireless.Axes.byteStickVertical 0x01 = 127 ∧
      Axis.sign .ly Wired.Axes.nintendo64Stick.inverted *
          (sample .ly Wireless.Axes.byteStickVertical Wired.Axes.nintendo64Stick defaultFraction 0xFE).mapped ≤
        Axis.sign .ly Wired.Axes.nintendo64Stick.inverted *
          (sample .ly Wireless.Axes.byteStickVertical Wired.Axes.nintendo64Stick defaultFraction 0x01).mapped :=
  ⟨by decide, by decide, by decide,
    sample_mapped_mono .ly defaultFraction (by decide) (by decide) (by decide) (by decide) (by decide)
      (by decide)⟩

-- At the full travel the other regime takes over, and the same stick falls back to its true travel.
example :
    (sample .ly Wireless.Axes.byteStickVertical Wired.Axes.nintendo64Stick defaultFraction 0x01).mapped = 88 ∧
      (sample .ly Wireless.Axes.byteStickVertical Wired.Axes.nintendo64Stick defaultFraction 0x00).mapped =
        84 := by
  decide

end Response

end PadBench
