import PadBench.Proofs.Pad.Monotonicity

/-!
Which way a scaled value points.

A pad's axis has a polarity and a console's has one. The travel of a side is chosen by the sign that a value
has in the polarity of its own axis, on the pad as on the console.

* `Response.mapped_eq_stored`: the scaled value is what a console's axis stores of an unbounded one;
* `Response.sample_points`: it rests, or it points where the displacement points;
* `Response.sample_symmetry`: a pad's axis in the other polarity answers the opposite displacement alike, and
  the mirror image of a console's axis answers with the opposite value.
-/
namespace PadBench

namespace StorageRange

def mirrored (range : StorageRange) : StorageRange := ⟨-range.greatest, -range.least⟩

theorem clamp_mirrored {range : StorageRange} (proper : range.least ≤ range.greatest) (value : Int) :
    range.mirrored.clamp (-value) = -range.clamp value := by
  have proper' : range.mirrored.least ≤ range.mirrored.greatest := Int.neg_le_neg proper
  rw [clamp_eq proper, clamp_eq proper']
  simp only [mirrored]
  omega

/-- A range that holds the rest cuts a value off on its way to the rest, not past it. -/
theorem clamp_between {range : StorageRange} (rest : range.Holds 0) (value : Int) :
    (0 ≤ range.clamp value ∧ range.clamp value ≤ value) ∨
      (value ≤ range.clamp value ∧ range.clamp value ≤ 0) := by
  obtain ⟨low, high⟩ := rest
  rw [clamp_eq (low.trans high)]
  omega

end StorageRange

namespace Calibration

/-- The same axis in the other polarity. -/
def reversed (calibration : Calibration) : Calibration :=
  { calibration with inverted := !calibration.inverted }

/-- The same axis with its two sides exchanged. -/
def mirrored (calibration : Calibration) : Calibration :=
  { calibration with
    positiveTravel := calibration.negativeTravel
    negativeTravel := calibration.positiveTravel
    inverted := !calibration.inverted
    range := calibration.range.map .mirrored }

/-- What a console's axis stores of a scaled value. -/
def stored (wired : Calibration) (value : Int) : Int :=
  match wired.range with
  | none => value
  | some range => range.clamp value

variable {wired : Calibration}

theorem travel_mirrored {side : Int} (unit : side = 1 ∨ side = -1) :
    wired.mirrored.travel (-side) = wired.travel side := by
  rcases unit with rfl | rfl <;> rfl

theorem stored_mirrored
    (proper : ∀ range, wired.range = some range → range.least ≤ range.greatest) (value : Int) :
    wired.mirrored.stored (-value) = -wired.stored value := by
  unfold stored mirrored
  cases ranged : wired.range with
  | none => rfl
  | some range => exact StorageRange.clamp_mirrored (proper range ranged) value

section

variable (sound : wired.fault? = none)

include sound

theorem stored_holds {range : StorageRange} (ranged : wired.range = some range) (value : Int) :
    range.Holds (wired.stored value) := by
  simp only [stored, ranged]
  exact StorageRange.holds_clamp (storesRest_of_sound sound ranged) value

theorem stored_zero : wired.stored 0 = 0 := by
  unfold stored
  cases ranged : wired.range with
  | none => rfl
  | some range => exact StorageRange.clamp_of_holds (storesRest_of_sound sound ranged)

/-- A storage range has room for both sides, so it does not turn a value round. -/
theorem stored_sign (value : Int) :
    wired.stored value = 0 ∨ (wired.stored value).sign = value.sign := by
  unfold stored
  cases ranged : wired.range with
  | none => exact .inr rfl
  | some range =>
    rcases StorageRange.clamp_between (storesRest_of_sound sound ranged) value with
      ⟨nonneg, le⟩ | ⟨le, nonpos⟩
    · rcases nonneg.eq_or_lt with rest | right
      · exact .inl rest.symm
      · right
        rw [Int.sign_eq_one_of_pos right, Int.sign_eq_one_of_pos (right.trans_le le)]
    · rcases nonpos.eq_or_lt with rest | left
      · exact .inl rest
      · right
        rw [Int.sign_eq_neg_one_of_neg left, Int.sign_eq_neg_one_of_neg (le.trans_lt left)]

end

end Calibration

namespace Response

variable (axis : Axis) (source : Calibration) {wired : Calibration} (fraction : BinaryFloat)

theorem mapped_of_live {genericValue : Int} (live : ¬ isDead source fraction genericValue = true) :
    mapped axis source wired fraction genericValue =
      wired.stored (unbounded axis source wired fraction genericValue) := by
  rw [mapped, unbounded, if_neg live, if_neg live]
  rfl

theorem mapped_eq_stored (sound : wired.fault? = none) (genericValue : Int) :
    mapped axis source wired fraction genericValue =
      wired.stored (unbounded axis source wired fraction genericValue) := by
  by_cases dead : isDead source fraction genericValue = true
  · rw [mapped_of_dead axis source fraction dead, unbounded, if_pos dead, Calibration.stored_zero sound]
  · exact mapped_of_live axis source fraction dead

/-- Before a console stores it a scaled value rests, or it points where the displacement points. -/
theorem unbounded_sign (genericValue : Int) :
    unbounded axis source wired fraction genericValue = 0 ∨
      (unbounded axis source wired fraction genericValue).sign =
        axis.sign wired.inverted * genericValue.sign := by
  have side : (axis.sign wired.inverted).sign = axis.sign wired.inverted := by
    rcases sign_unit axis wired.inverted with side | side <;> rw [side] <;> rfl
  rw [unbounded_eq]
  rcases (deflection_nonneg _).eq_or_lt with rest | deflected
  · left
    rw [← rest, mul_zero]
  · right
    rw [Int.sign_mul, Int.sign_eq_one_of_pos deflected, mul_one, Int.sign_mul, Int.sign_sign, side]

/-- Whatever the raw value: what is stored lies in the storage range, it rests or points where the displacement
points, and within the deadzone it rests. The console's neutral is added to it, if no sum or difference leaves
the range on the way to the sample. -/
theorem sample_points (sound : wired.fault? = none) (raw : Int) :
    let sample := sample axis source wired fraction raw
    let travel := source.travel sample.generic
    let dead := deadzone travel source.fixedDeadzone fraction
    ((sample? axis source wired fraction raw).isSome → sample.wired = sample.mapped + wired.neutral) ∧
      (∀ range, wired.range = some range → range.Holds sample.mapped) ∧
      (sample.mapped = 0 ∨ sample.mapped.sign = axis.sign wired.inverted * sample.generic.sign) ∧
      (sample.generic.natAbs ≤ dead ∨ travel ≤ dead → sample.mapped = 0) := by
  intro sample travel dead
  have stores : sample.mapped =
      wired.stored (unbounded axis source wired fraction sample.generic) :=
    mapped_eq_stored axis source fraction sound sample.generic
  refine ⟨?_, ?_, ?_, ?_⟩
  · intro checked
    exact sample_wired_of_exact axis source fraction (isInRange_of_isSome checked).wired
  · intro range ranged
    rw [stores]
    exact Calibration.stored_holds sound ranged _
  · rw [stores]
    rcases unbounded_sign axis source fraction sample.generic with rest | points
    · left
      rw [rest, Calibration.stored_zero sound]
    · rw [← points]
      exact Calibration.stored_sign sound _
  · intro within
    apply mapped_of_dead
    -- The distance from neutral is at most the size of the displacement: it saturates.
    have size : magnitude sample.generic ≤ sample.generic.natAbs := by
      simp only [magnitude, Signed32.saturate, Signed32.least, Signed32.greatest]
      omega
    exact decide_eq_true (within.imp size.trans id)

/-- The greatest raw value, far past the full travel of a stick that is pulled down, at a console that stores the
axis the other way round. -/
theorem sample_points_far :
    let stick := Wired.Axes.saturnStick.reversed
    let sample := sample .ly Wireless.Axes.byteStickVertical stick defaultFraction Signed32.greatest
    stick.fault? = none ∧ sample.wired = sample.mapped + stick.neutral ∧ stick.range = some ⟨-128, 127⟩ ∧
      (⟨-128, 127⟩ : StorageRange).Holds sample.mapped ∧
      sample.mapped.sign = Axis.sign .ly stick.inverted * sample.generic.sign := by
  intro stick sample
  have sound : stick.fault? = none := by decide
  obtain ⟨wires, holds, points, _⟩ := sample_points .ly Wireless.Axes.byteStickVertical defaultFraction sound
    Signed32.greatest
  exact ⟨sound, wires (by decide), rfl, holds _ rfl, points.resolve_left (by decide)⟩

theorem sign_not (inverted : Bool) : axis.sign (!inverted) = -axis.sign inverted := by
  rw [Axis.sign_eq, Axis.sign_eq]
  cases inverted <;> rfl

theorem generic_reversed {displacement : Int} (low : Signed32.least < displacement)
    (high : displacement ≤ Signed32.greatest) :
    generic axis source.reversed (source.neutral - displacement) =
      generic axis source (source.neutral + displacement) := by
  have opposite : source.neutral - displacement - source.neutral = -displacement := by omega
  have same : source.neutral + displacement - source.neutral = displacement := by omega
  -- The least value of the range alone has no opposite in it.
  have kept : Signed32.saturate displacement = displacement := Signed32.saturate_of_mem low.le high
  have kept' : Signed32.saturate (-displacement) = -displacement := by
    simp only [Signed32.saturate, Signed32.least, Signed32.greatest] at low high ⊢
    omega
  simp only [generic, Calibration.reversed, opposite, same, kept, kept', sign_not, neg_mul_neg]

/-- Once the displacement is known, the polarity of a pad's axis has no more to say. -/
theorem mapped_reversed (genericValue : Int) :
    mapped axis source.reversed wired fraction genericValue =
      mapped axis source wired fraction genericValue := rfl

theorem wiredValue_reversed (genericValue scaled : Int) :
    wiredValue source.reversed wired fraction genericValue scaled =
      wiredValue source wired fraction genericValue scaled := rfl

theorem sign_mul_unit (inverted : Bool) {genericValue : Int} (moved : genericValue.sign ≠ 0) :
    axis.sign inverted * genericValue.sign = 1 ∨ axis.sign inverted * genericValue.sign = -1 := by
  rcases Int.sign_trichotomy genericValue with side | side | side
  · rw [side, mul_one]
    exact sign_unit axis inverted
  · exact absurd side moved
  · rw [side, mul_neg_one, neg_eq_iff_eq_neg, neg_inj]
    exact (sign_unit axis inverted).symm

theorem unbounded_mirrored (genericValue : Int) :
    unbounded axis source wired.mirrored fraction genericValue =
      -unbounded axis source wired fraction genericValue := by
  have turned : axis.sign wired.mirrored.inverted * genericValue.sign =
      -(axis.sign wired.inverted * genericValue.sign) := by
    rw [Calibration.mirrored, sign_not, neg_mul]
  rw [unbounded_eq, unbounded_eq, turned]
  -- At rest the travel may be that of the other side, but nothing is scaled.
  by_cases rest : genericValue.sign = 0
  · rw [rest, mul_zero, neg_zero, zero_mul, zero_mul, neg_zero]
  · rw [Calibration.travel_mirrored (sign_mul_unit axis wired.inverted rest), neg_mul]

theorem mapped_mirrored (proper : ∀ range, wired.range = some range → range.least ≤ range.greatest)
    (genericValue : Int) :
    mapped axis source wired.mirrored fraction genericValue =
      -mapped axis source wired fraction genericValue := by
  by_cases dead : isDead source fraction genericValue = true
  · rw [mapped_of_dead axis source fraction dead, mapped_of_dead axis source fraction dead, neg_zero]
  · rw [mapped_of_live axis source fraction dead, mapped_of_live axis source fraction dead,
      unbounded_mirrored, Calibration.stored_mirrored proper]

/-- A pad's axis in the other polarity answers the opposite displacement with the same values, and the mirror
image of a console's axis answers each raw value with the opposite one. -/
theorem sample_symmetry (wired : Calibration) :
    (∀ displacement, Signed32.least < displacement → displacement ≤ Signed32.greatest →
      let right := sample axis source wired fraction (source.neutral + displacement)
      let left := sample axis source.reversed wired fraction (source.neutral - displacement)
      left.generic = right.generic ∧ left.mapped = right.mapped ∧ left.wired = right.wired) ∧
    ((∀ range, wired.range = some range → range.least ≤ range.greatest) →
      ∀ raw, (sample axis source wired.mirrored fraction raw).mapped =
        -(sample axis source wired fraction raw).mapped) := by
  constructor
  · intro displacement low high
    have generic_eq := generic_reversed axis source low high
    simp only [sample, generic_eq, mapped_reversed, wiredValue_reversed, and_self]
  · intro proper raw
    exact mapped_mirrored axis source fraction proper (generic axis source raw)

/-- A console's stick that travels farther to the left, and stores up to there. -/
theorem sample_symmetry_asymmetric :
    (let right := sample .lx Wireless.Axes.byteStickVertical Wired.Axes.saturnStick defaultFraction 0xFF
      let left := sample .lx Wireless.Axes.byteStickVertical.reversed Wired.Axes.saturnStick defaultFraction
        0x01
      left.generic = right.generic ∧ left.mapped = right.mapped ∧ left.wired = right.wired) ∧
    (sample .lx Wireless.Axes.byteStickVertical Wired.Axes.saturnStick.mirrored defaultFraction 0xFF).mapped =
      -(sample .lx Wireless.Axes.byteStickVertical Wired.Axes.saturnStick defaultFraction 0xFF).mapped := by
  obtain ⟨reversal, mirror⟩ := sample_symmetry .lx Wireless.Axes.byteStickVertical defaultFraction
    Wired.Axes.saturnStick
  refine ⟨reversal 0x7F (by decide) (by decide), mirror ?_ 0xFF⟩
  rintro range ⟨⟩
  decide

end Response

end PadBench
