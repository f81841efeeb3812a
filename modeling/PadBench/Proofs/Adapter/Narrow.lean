import PadBench.Proofs.Adapter.Inputs
import PadBench.Proofs.Adapter.PullBack

/-!
Axes whose numbers have sixteen bits.

Every axis of a pad is one. Whatever is computed of it stays far within the range of axis values, so sums that
would wrap are exact.

* `Response.deadzone_narrow`: a deadzone has seventeen bits;
* `Adapter.boundaries_narrow`, `Adapter.rawValue_eq`: what such an axis is tried at;
* `WirelessPad.axes_narrow`: the axes of the pads.
-/
namespace PadBench

/-- Neutral, travels and fixed deadzone are numbers of sixteen bits. -/
structure Calibration.IsNarrow (calibration : Calibration) : Prop where
  neutral : 0 ≤ calibration.neutral ∧ calibration.neutral < 2 ^ 16
  positive : 0 ≤ calibration.positiveTravel ∧ calibration.positiveTravel < 2 ^ 16
  negative : 0 ≤ calibration.negativeTravel ∧ calibration.negativeTravel < 2 ^ 16
  fixed : 0 ≤ calibration.fixedDeadzone ∧ calibration.fixedDeadzone < 2 ^ 16

theorem Calibration.IsNarrow.travel {calibration : Calibration} (narrow : calibration.IsNarrow) (generic : Int) :
    0 ≤ calibration.travel generic ∧ calibration.travel generic < 2 ^ 16 := by
  rw [Calibration.travel]
  split
  · exact narrow.positive
  · exact narrow.negative

theorem WirelessPad.axes_narrow (pad : WirelessPad) {axis : Axis} {source : Calibration}
    (has : pad.axes.get axis = some source) : source.IsNarrow := by
  cases pad <;> cases axis <;> cases has <;>
    exact ⟨by decide, by decide, by decide, by decide⟩

namespace Signed32

theorem wrap_of_small {value : Int} (low : -2 ^ 31 ≤ value) (high : value < 2 ^ 31) : wrap value = value :=
  wrap_of_mem low (Int.le_of_lt_add_one high)

end Signed32

namespace Response

variable {travel fixed : Int} {fraction : BinaryFloat}

/-- The pull-back travel of a travel in sixteen bits. -/
theorem pullBackTravel_narrow (travels : 0 ≤ travel ∧ travel < 2 ^ 16) :
    0 ≤ pullBackTravel travel ∧ pullBackTravel travel ≤ travel :=
  pullBackTravel_bounds travels.1 (by rw [pullBackPercent, Signed32.greatest]; omega)

/-- A deadzone in numbers of sixteen bits is one of seventeen. -/
theorem deadzone_narrow (half : fraction.IsHalfShare) (travels : 0 ≤ travel ∧ travel < 2 ^ 16)
    (fixes : 0 ≤ fixed ∧ fixed < 2 ^ 16) :
    0 ≤ deadzone travel fixed fraction ∧ deadzone travel fixed fraction < 2 ^ 17 := by
  have bounds := deadzone_le_half half ⟨travels.1, by omega⟩ ⟨fixes.1, by omega⟩
  omega

/-- A polarity and a direction make a side. -/
theorem side_unit (axis : Axis) (calibration : Calibration) (direction : Direction) :
    axis.sign calibration.inverted * direction.sign = 1 ∨
      axis.sign calibration.inverted * direction.sign = -1 := by
  rw [Axis.sign_eq]
  cases calibration.inverted <;> cases direction <;> decide

end Response

namespace Adapter

variable {axis : Axis} {source wired : Calibration} {fraction : BinaryFloat} {direction : Direction}

/-- A deadzone and a step past it. -/
theorem wrap_step (half : fraction.IsHalfShare) (narrow : source.IsNarrow) (generic : Int) {step : Int}
    (steps : 0 ≤ step ∧ step ≤ 2 ^ 16) :
    Signed32.wrap (Response.deadzone (source.travel generic) source.fixedDeadzone fraction + step) =
      Response.deadzone (source.travel generic) source.fixedDeadzone fraction + step := by
  have dead := Response.deadzone_narrow half (narrow.travel generic) narrow.fixed
  exact Signed32.wrap_of_small (by omega) (by omega)

/-- The steps past the deadzone of a side. -/
theorem wrap_steps (half : fraction.IsHalfShare) (narrow : source.IsNarrow) (direction : Direction)
    (target : Int) :
    let dead := Response.deadzone (source.travel direction.sign) source.fixedDeadzone fraction
    let steps := StepSizes.ofTravels (source.travel direction.sign) target
    Signed32.wrap (dead + steps.one) = dead + steps.one ∧
      Signed32.wrap (dead + steps.half) = dead + steps.half := by
  intro dead steps
  have travels := narrow.travel direction.sign
  have bounds : 1 ≤ steps.half ∧ steps.half ≤ steps.one ∧ steps.one ≤ max (source.travel direction.sign) 1 :=
    StepSizes.ofTravels_bounds travels.1 target
  constructor <;> exact wrap_step half narrow direction.sign (by omega)

/-- Whatever an axis is tried at is a displacement of at most eighteen bits. -/
theorem boundaries_narrow (half : fraction.IsHalfShare) (narrow : source.IsNarrow) {boundary : Boundary}
    {magnitude : Int} (tried : (boundary, magnitude) ∈ boundaries axis source wired fraction direction) :
    0 ≤ magnitude ∧ magnitude < 2 ^ 18 := by
  have travels := narrow.travel direction.sign
  have dead := Response.deadzone_narrow half travels narrow.fixed
  have bounds := StepSizes.ofTravels_bounds travels.1 (wired.travel (axis.sign wired.inverted * direction.sign))
  obtain ⟨whole, part⟩ :=
    wrap_steps half narrow direction (wired.travel (axis.sign wired.inverted * direction.sign))
  simp only [boundaries, whole, part] at tried
  split at tried
  · cases tried
  · split at tried <;> simp only [List.mem_cons, Prod.mk.injEq, List.not_mem_nil, or_false] at tried <;> omega

/-- A displacement from a neutral of sixteen bits. -/
theorem rawValue_eq (narrow : source.IsNarrow) {magnitude : Int} (bounds : 0 ≤ magnitude ∧ magnitude < 2 ^ 18) :
    rawValue axis source direction magnitude =
      source.neutral + axis.sign source.inverted * direction.sign * magnitude := by
  have neutral := narrow.neutral
  have within : -2 ^ 18 < axis.sign source.inverted * direction.sign * magnitude ∧
      axis.sign source.inverted * direction.sign * magnitude < 2 ^ 18 := by
    rcases Response.side_unit axis source direction with unit | unit <;> rw [unit] <;> omega
  exact Signed32.wrap_of_small (by omega) (by omega)

end Adapter

end PadBench
