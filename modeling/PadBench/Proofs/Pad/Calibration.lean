import Mathlib.Logic.Basic
import PadBench.Pad.Calibration

/-!
What the rules of a calibration come to.

* `Calibration.fault?_eq_none_iff`: the travels, the deadzone and the storage range of a sound calibration;
* `Calibration.storesRest_of_sound`: its storage range has room for an axis at rest;
* `Calibration.isCentered_iff`: where a neutral is within one travel of a center;
* `AxisSet.fault?_eq_none_iff`: axes are sound together if each of them is.
-/
namespace PadBench

namespace Calibration

variable {calibration : Calibration}

theorem fault?_eq_none_iff :
    calibration.fault? = none ↔
      0 < calibration.positiveTravel ∧ 0 ≤ calibration.negativeTravel ∧
        (0 ≤ calibration.fixedDeadzone ∧ calibration.fixedDeadzone < calibration.positiveTravel) ∧
        ∀ range, calibration.range = some range → calibration.fits range = true := by
  unfold fault?
  split
  · exact iff_of_false nofun fun ⟨positive, _⟩ => by omega
  · split
    · exact iff_of_false nofun fun ⟨_, negative, _⟩ => by omega
    · split
      · exact iff_of_false nofun fun ⟨_, _, deadzone, _⟩ => by omega
      · have rules : 0 < calibration.positiveTravel ∧ 0 ≤ calibration.negativeTravel ∧
            0 ≤ calibration.fixedDeadzone ∧ calibration.fixedDeadzone < calibration.positiveTravel := by
          omega
        cases ranged : calibration.range with
        | none => exact iff_of_true rfl ⟨rules.1, rules.2.1, rules.2.2, nofun⟩
        | some range =>
          simp only [rules, and_self, true_and, Option.some.injEq, forall_eq', ite_eq_left_iff,
            reduceCtorEq, imp_false, Decidable.not_not]

theorem travels_of_sound (sound : calibration.fault? = none) :
    0 < calibration.positiveTravel ∧ 0 ≤ calibration.negativeTravel :=
  have ⟨positive, negative, _⟩ := fault?_eq_none_iff.mp sound
  ⟨positive, negative⟩

theorem travel_nonneg (sound : calibration.fault? = none) (generic : Int) : 0 ≤ calibration.travel generic := by
  have travels := travels_of_sound sound
  unfold travel
  split <;> omega

theorem storesRest_of_sound (sound : calibration.fault? = none) {range : StorageRange}
    (ranged : calibration.range = some range) : range.least ≤ 0 ∧ 0 ≤ range.greatest := by
  obtain ⟨positive, negative, _, fits⟩ := fault?_eq_none_iff.mp sound
  have sides := of_decide_eq_true (fits range ranged)
  omega

end Calibration

namespace Calibration

/-- The neutral rests within one travel of a center, by the numbers as they are. -/
def IsNear (calibration : Calibration) (center : Int) : Prop :=
  center - calibration.negativeTravel ≤ calibration.neutral ∧
    calibration.neutral ≤ center + calibration.positiveTravel

/-- The center and one travel to either side of it are axis values. -/
def SumsFit (calibration : Calibration) (center : Int) : Prop :=
  Signed32.least ≤ center - calibration.negativeTravel ∧ center + calibration.positiveTravel ≤ Signed32.greatest

/-- Neutral and travels are axis values. -/
structure IsSigned32 (calibration : Calibration) : Prop where
  neutral : Signed32.least ≤ calibration.neutral ∧ calibration.neutral ≤ Signed32.greatest
  positive : calibration.positiveTravel ≤ Signed32.greatest
  negative : calibration.negativeTravel ≤ Signed32.greatest

variable {calibration : Calibration} {center : Int}

theorem isCentered_of_near (fit : calibration.SumsFit center) (near : calibration.IsNear center)
    (sound : calibration.fault? = none)
    (inside : Signed32.least ≤ center ∧ center ≤ Signed32.greatest) : calibration.isCentered center = true := by
  obtain ⟨positive, negative⟩ := travels_of_sound sound
  obtain ⟨low, high⟩ := fit
  have below : calibration.lowest center = center - calibration.negativeTravel :=
    Signed32.wrap_of_mem low (by omega)
  have above : calibration.highest center = center + calibration.positiveTravel :=
    Signed32.wrap_of_mem (by omega) high
  rw [isCentered, below, above]
  exact decide_eq_true near

/-- A sum that wraps leaves no room between the two bounds, so what is within them is near. -/
theorem isCentered_iff (numbers : calibration.IsSigned32) (sound : calibration.fault? = none)
    (inside : Signed32.least ≤ center ∧ center ≤ Signed32.greatest) :
    calibration.isCentered center = true ↔ calibration.SumsFit center ∧ calibration.IsNear center := by
  constructor
  · intro centered
    obtain ⟨positive, negative⟩ := travels_of_sound sound
    obtain ⟨-, right, left⟩ := numbers
    have bounds := of_decide_eq_true centered
    simp only [lowest, highest, Signed32.wrap, Signed32.least, Signed32.greatest] at bounds inside right left
    simp only [SumsFit, IsNear, Signed32.least, Signed32.greatest]
    omega
  · rintro ⟨fit, near⟩
    exact isCentered_of_near fit near sound inside

end Calibration

theorem Calibration.faultAround?_eq_none_iff {calibration : Calibration} {center : Int} :
    calibration.faultAround? center = none ↔
      calibration.fault? = none ∧ calibration.isCentered center = true := by
  cases found : calibration.fault? <;> simp [faultAround?, found]

theorem AxisSet.fault?_eq_none_iff {axes : AxisSet} :
    axes.fault? = none ↔ ∀ axis calibration, axes.get axis = some calibration → calibration.fault? = none := by
  simp only [fault?, PerAxis.present, List.findSome?_eq_none_iff, List.mem_filterMap, Option.map_eq_some_iff,
    Option.map_eq_none_iff]
  constructor
  · intro sound axis calibration present
    exact sound (axis, calibration) ⟨axis, Axis.mem_all axis, calibration, present, rfl⟩
  · rintro sound _ ⟨axis, _, calibration, present, rfl⟩
    exact sound axis calibration present

end PadBench
