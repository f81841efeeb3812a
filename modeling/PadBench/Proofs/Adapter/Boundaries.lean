import PadBench.Proofs.Adapter.Names
import PadBench.Proofs.Adapter.Steps
import PadBench.Proofs.Pad.ButtonTable
import PadBench.Proofs.Pad.Calibration
import PadBench.Proofs.Pad.Checked
import PadBench.Proofs.Wired.FullTravel

/-!
What the displacements of an axis are expected to show.

The raw value of a displacement is made from a side and a size, and the adapter's model takes it apart again.
The two agree where nothing leaves the range on the way, also where the size is 0 and the side is lost.

* `mem_boundaries_iff`: which displacements are tried, and their sizes;
* `sample_at_rest`, `sample_displaced`: an axis at rest, and one that is displaced;
* `boundary_scenarios`: there is a scenario for each displacement that is tried, and it expects the size and
  the side that its name tells, with everything else at rest.
-/
namespace PadBench

namespace Adapter

variable {axis : Axis} {source wired : Calibration} {fraction : BinaryFloat} {direction : Direction}
  {boundary : Boundary} {magnitude : Int}

/-- How far an axis is displaced at a boundary of a side. -/
def boundaryMagnitude (axis : Axis) (source wired : Calibration) (fraction : BinaryFloat)
    (direction : Direction) : Boundary → Int
  | .deadzone => sideDead source fraction direction
  | .extreme => source.travel direction.sign
  | .minStep => sideDead source fraction direction + (sideSteps axis source wired direction).one
  | .subStep => sideDead source fraction direction + (sideSteps axis source wired direction).half

/-- The steps of a side differ, and stay short of its travel. -/
def StepsFit (axis : Axis) (source wired : Calibration) (fraction : BinaryFloat) (direction : Direction) :
    Prop :=
  (sideSteps axis source wired direction).half < (sideSteps axis source wired direction).one ∧
    sideDead source fraction direction + (sideSteps axis source wired direction).one <
      source.travel direction.sign

/-- The side travels, and a step is tried only where the steps fit. -/
def IsTried (axis : Axis) (source wired : Calibration) (fraction : BinaryFloat) (direction : Direction)
    (boundary : Boundary) : Prop :=
  0 < source.travel direction.sign ∧
    (boundary = .minStep ∨ boundary = .subStep → StepsFit axis source wired fraction direction)

instance : Decidable (StepsFit axis source wired fraction direction) := inferInstanceAs (Decidable (_ ∧ _))

/-- No sum or product leaves the range on the way to the raw values that the axis is tried at, nor do its
travels. -/
def WithinRange (axis : Axis) (source wired : Calibration) (fraction : BinaryFloat) : Prop :=
  ∀ direction : Direction, source.travel direction.sign ≤ Signed32.greatest ∧
    (rawValues? axis source wired fraction direction).isSome

section Range

variable (ranged : WithinRange axis source wired fraction)

include ranged

theorem isSideInRange_of_travels (travels : 0 < source.travel direction.sign) :
    IsSideInRange axis source wired fraction direction := by
  obtain ⟨values, checked⟩ := Option.isSome_iff_exists.mp (ranged direction).2
  exact (rawValues?_eq_some checked).2.1 travels

theorem rawValue_eq_of_tried (tried : (boundary, magnitude) ∈ boundaries axis source wired fraction direction) :
    rawValue axis source direction magnitude =
      source.neutral + axis.sign source.inverted * direction.sign * magnitude := by
  obtain ⟨values, checked⟩ := Option.isSome_iff_exists.mp (ranged direction).2
  exact (rawValues?_eq_some checked).2.2 boundary magnitude tried

theorem boundaries_eq (travels : 0 < source.travel direction.sign) :
    boundaries axis source wired fraction direction =
      (.deadzone, sideDead source fraction direction) :: (.extreme, source.travel direction.sign) ::
        if StepsFit axis source wired fraction direction then
          [(.minStep, sideDead source fraction direction + (sideSteps axis source wired direction).one),
            (.subStep, sideDead source fraction direction + (sideSteps axis source wired direction).half)]
        else [] := by
  have side : IsSideInRange axis source wired fraction direction := isSideInRange_of_travels ranged travels
  simp only [boundaries, if_neg (not_le.mpr travels)]
  by_cases apart : (sideSteps axis source wired direction).half < (sideSteps axis source wired direction).one
  · have resolvable : (StepSizes.ofTravels (source.travel direction.sign)
        (wired.travel (axis.sign wired.inverted * direction.sign))).isResolvable = true := decide_eq_true apart
    obtain ⟨one, half⟩ := side.whole resolvable
    simp only [one, resolvable, Bool.true_and, decide_eq_true_eq]
    split
    · rename_i short
      rw [if_pos ⟨apart, short⟩, half short]
      rfl
    · rename_i far
      rw [if_neg fun fit => far fit.2]
      rfl
  · have coarse : (StepSizes.ofTravels (source.travel direction.sign)
        (wired.travel (axis.sign wired.inverted * direction.sign))).isResolvable = false :=
      decide_eq_false apart
    have unfit : ¬ StepsFit axis source wired fraction direction := fun fit => apart fit.1
    rw [coarse, Bool.false_and, if_neg Bool.false_ne_true, if_neg unfit]
    rfl

theorem mem_boundaries_iff :
    (boundary, magnitude) ∈ boundaries axis source wired fraction direction ↔
      IsTried axis source wired fraction direction boundary ∧
        magnitude = boundaryMagnitude axis source wired fraction direction boundary := by
  by_cases travels : 0 < source.travel direction.sign
  · rw [boundaries_eq ranged travels]
    split
    · rename_i fit
      cases boundary <;> simp [IsTried, boundaryMagnitude, travels, fit]
    · rename_i unfit
      cases boundary <;> simp [IsTried, boundaryMagnitude, travels, unfit]
  · have none : boundaries axis source wired fraction direction = [] := if_pos (not_lt.mp travels)
    rw [none]
    exact iff_of_false List.not_mem_nil fun ⟨tried, _⟩ => travels tried.1

variable (half : fraction.IsHalfShare) (sound : source.fault? = none)

include half sound

/-- The deadzone of a side that travels is not negative. -/
theorem sideDead_nonneg (travels : 0 < source.travel direction.sign) : 0 ≤ sideDead source fraction direction := by
  have share := Response.share_nonneg half travels.le
  have fixed := (Calibration.fault?_eq_none_iff.mp sound).2.2.1.1
  rw [sideDead, (isSideInRange_of_travels ranged travels).dead]
  omega

theorem isDead_zero : Response.isDead source fraction 0 = true := by
  have still : Response.magnitude 0 = 0 := by decide
  have right : 0 ≤ sideDead source fraction .positive :=
    sideDead_nonneg ranged half sound (Calibration.travels_of_sound sound).1
  rw [Response.isDead, still]
  exact decide_eq_true (.inl right)

/-- At its neutral an axis shows nothing. -/
theorem sample_at_rest :
    Response.sample axis source wired fraction source.neutral = ⟨source.neutral, 0, 0, wired.neutral⟩ := by
  have still : Response.generic axis source source.neutral = 0 := by
    rw [Response.generic, Int.sub_self]
    cases source.inverted <;> cases axis <;> decide
  have dead := isDead_zero ranged half sound
  simp only [Response.sample, Response.wiredValue, still, dead, if_true,
    Response.mapped_of_dead axis source fraction dead]

theorem boundaryMagnitude_bounds (tried : IsTried axis source wired fraction direction boundary) :
    0 ≤ boundaryMagnitude axis source wired fraction direction boundary ∧
      boundaryMagnitude axis source wired fraction direction boundary < 2 ^ 31 := by
  have travel_le := (ranged direction).1
  obtain ⟨travels, steps⟩ := tried
  have dead_nonneg : 0 ≤ sideDead source fraction direction := sideDead_nonneg ranged half sound travels
  have dead_le : sideDead source fraction direction ≤ Signed32.greatest := Signed32.wrap_le_greatest _
  have one : 1 ≤ (sideSteps axis source wired direction).half := Int.le_max_right _ _
  simp only [Signed32.greatest] at travel_le dead_le
  cases boundary with
  | deadzone => exact ⟨dead_nonneg, by rw [boundaryMagnitude]; omega⟩
  | extreme => exact ⟨travels.le, by rw [boundaryMagnitude]; omega⟩
  | minStep =>
    obtain ⟨apart, short⟩ := steps (.inl rfl)
    simp only [boundaryMagnitude]
    omega
  | subStep =>
    obtain ⟨apart, short⟩ := steps (.inr rfl)
    simp only [boundaryMagnitude]
    omega

/-- The deadzone of a side is dead, on whichever side a displacement by nothing counts. -/
theorem isDead_sideDead (travels : 0 < source.travel direction.sign) :
    Response.isDead source fraction (direction.sign * sideDead source fraction direction) = true := by
  have nonneg : 0 ≤ sideDead source fraction direction := sideDead_nonneg ranged half sound travels
  have small : sideDead source fraction direction ≤ Signed32.greatest := Signed32.wrap_le_greatest _
  rcases nonneg.eq_or_lt with nothing | positive
  · rw [← nothing, Int.mul_zero]
    exact isDead_zero ranged half sound
  · have size : Response.magnitude (direction.sign * sideDead source fraction direction) =
        sideDead source fraction direction :=
      Response.magnitude_displaced direction nonneg (by simp only [Signed32.greatest] at small; omega)
    simp only [Response.isDead, size, Response.travel_displaced positive, decide_eq_true_eq]
    exact .inl (Int.le_refl _)

/-- What a displacement shows on its own axis: the size and the side it was made from, and at the deadzone no
more than that. -/
theorem sample_displaced (tried : IsTried axis source wired fraction direction boundary) :
    let magnitude := boundaryMagnitude axis source wired fraction direction boundary
    let sample := Response.sample axis source wired fraction (rawValue axis source direction magnitude)
    sample.generic = direction.sign * magnitude ∧
      (boundary = .deadzone → sample.mapped = 0) := by
  intro magnitude sample
  obtain ⟨nonneg, small⟩ := boundaryMagnitude_bounds ranged half sound tried
  have exact : rawValue axis source direction magnitude =
      source.neutral + axis.sign source.inverted * direction.sign * magnitude :=
    rawValue_eq_of_tried ranged ((mem_boundaries_iff ranged).mpr ⟨tried, rfl⟩)
  have generic : sample.generic = direction.sign * magnitude := Response.generic_displaced nonneg small exact
  refine ⟨generic, ?_⟩
  rintro rfl
  have scaled : sample.mapped = Response.mapped axis source wired fraction sample.generic := rfl
  rw [scaled, generic]
  exact Response.mapped_of_dead axis source fraction (isDead_sideDead ranged half sound tried.1)

end Range

/-- An axis that is not displaced is expected at rest. -/
theorem expected_undisplaced (adapter : Adapter) (name : String) (direction : Direction) (magnitude : Int)
    {other : Axis} {source' wired' : Calibration} (different : other ≠ axis)
    (ranged : WithinRange other source' wired' adapter.fraction) (half : adapter.fraction.IsHalfShare)
    (sound : source'.fault? = none) (sourceOther : adapter.source.axes.get other = some source')
    (wiredOther : adapter.wired.axes.get other = some wired') :
    (adapter.scenario name .axis (adapter.displaced axis source direction magnitude)).expected.axes.get other =
      some ⟨source'.neutral, 0, 0, wired'.neutral⟩ := by
  have raw : (adapter.displaced axis source direction magnitude).axes.get other = some source'.neutral := by
    rw [displaced, PadState.withAxis, PerAxis.get_set, if_neg different, restState, PadState.neutral,
      PerAxis.get_map, sourceOther]
    rfl
  simp only [Adapter.scenario, predict, PerAxis.get_ofFn, axisSample, sourceOther, wiredOther, raw]
  exact congrArg some (sample_at_rest ranged half sound)

/-- No button is pressed while an axis is displaced. -/
theorem buttons_displaced (adapter : Adapter) (axis : Axis) (source : Calibration) (direction : Direction)
    (magnitude : Int) :
    (adapter.predict (adapter.displaced axis source direction magnitude)).generic = 0 ∧
      (adapter.predict (adapter.displaced axis source direction magnitude)).wired = adapter.wired.idle := by
  have none : adapter.genericButtons (adapter.displaced axis source direction magnitude) = 0 := by
    have hatless : adapter.hatBits (adapter.displaced axis source direction magnitude) = 0 := by
      unfold hatBits
      cases adapter.source.hat <;> rfl
    have unpressed : (adapter.displaced axis source direction magnitude).buttons = 0 := rfl
    rw [genericButtons, hatless, unpressed, ButtonTable.generic_zero]
    rfl
  refine ⟨none, ?_⟩
  rw [predict, wiredButtons, none, ButtonTable.drive_zero, UInt32.zero_xor]

/-- The scenarios of a displacement: there is one exactly where pad and console have the axis and the
displacement is tried, and it expects of that axis the side and the size that its name tells, nothing past
the deadzone if it is displaced no further, and of all else that it rests. Nothing leaves the range on the way to
the raw values that are put in. -/
theorem boundary_scenarios (adapter : Adapter) (admissible : IsAdmissible adapter.fraction)
    (sound : adapter.source.axes.fault? = none)
    (ranged : ∀ axis source wired, adapter.source.axes.get axis = some source →
      adapter.wired.axes.get axis = some wired → WithinRange axis source wired adapter.fraction)
    (axis : Axis) (direction : Direction) (boundary : Boundary) :
    ((∃ scenario ∈ adapter.scenarios, scenario.name = axisName axis direction boundary) ↔
      ∃ source wired, adapter.source.axes.get axis = some source ∧ adapter.wired.axes.get axis = some wired ∧
        IsTried axis source wired adapter.fraction direction boundary) ∧
    ∀ scenario ∈ adapter.scenarios, scenario.name = axisName axis direction boundary →
      scenario.expected.generic = 0 ∧ scenario.expected.wired = adapter.wired.idle ∧
      (∃ source wired sample, adapter.source.axes.get axis = some source ∧
        adapter.wired.axes.get axis = some wired ∧ scenario.expected.axes.get axis = some sample ∧
        sample.generic =
          direction.sign * boundaryMagnitude axis source wired adapter.fraction direction boundary ∧
        (boundary = .deadzone → sample.mapped = 0)) ∧
      ∀ other source wired, other ≠ axis → adapter.source.axes.get other = some source →
        adapter.wired.axes.get other = some wired →
        ∃ sample, scenario.expected.axes.get other = some sample ∧
          sample.generic = 0 ∧ sample.mapped = 0 ∧ sample.wired = wired.neutral := by
  have half := isHalfShare_of_admissible admissible
  have each := AxisSet.fault?_eq_none_iff.mp sound
  refine ⟨⟨?_, ?_⟩, fun scenario member named => ?_⟩
  · rintro ⟨scenario, member, named⟩
    obtain ⟨source, wired, magnitude, sourceAxis, wiredAxis, tried, _⟩ := displaced_of_name member named
    have within := ranged axis source wired sourceAxis wiredAxis
    exact ⟨source, wired, sourceAxis, wiredAxis, ((mem_boundaries_iff within).mp tried).1⟩
  · rintro ⟨source, wired, sourceAxis, wiredAxis, tried⟩
    have within := ranged axis source wired sourceAxis wiredAxis
    exact ⟨_, mem_scenarios_of_displaced axis direction sourceAxis wiredAxis
      ((mem_boundaries_iff within).mpr ⟨tried, rfl⟩), rfl⟩
  · obtain ⟨source, wired, magnitude, sourceAxis, wiredAxis, tried, rfl⟩ := displaced_of_name member named
    have within := ranged axis source wired sourceAxis wiredAxis
    obtain ⟨isTried, rfl⟩ := (mem_boundaries_iff within).mp tried
    obtain ⟨unpressed, idle⟩ := adapter.buttons_displaced axis source direction _
    refine ⟨unpressed, idle, ?_, fun other source' wired' different sourceOther wiredOther => ?_⟩
    · obtain ⟨generic, still⟩ := sample_displaced within half (each axis source sourceAxis) isTried
      exact ⟨source, wired, _, sourceAxis, wiredAxis,
        adapter.expected_displaced _ direction _ sourceAxis wiredAxis, generic, still⟩
    · exact ⟨_, adapter.expected_undisplaced _ direction _ different
        (ranged other source' wired' sourceOther wiredOther) half (each other source' sourceOther)
        sourceOther wiredOther, rfl, rfl, rfl⟩

/-- An inverted axis, of which the two sides are not equally long, and without a deadzone: the full travel of
its shorter side, and its deadzone, which is the rest. -/
theorem boundary_scenarios_xbox :
    let adapter : Adapter := .withFraction WirelessPad.xbox.profile Console.gameCube.profile (.ofInt .single 0)
    (∃ scenario ∈ adapter.scenarios, scenario.name = "axis/LY/negative/extreme" ∧
      ∃ sample, scenario.expected.axes.get .ly = some sample ∧ sample.generic = -32767) ∧
    ∃ scenario ∈ adapter.scenarios, scenario.name = "axis/LY/negative/deadzone" ∧
      ∃ sample, scenario.expected.axes.get .ly = some sample ∧ sample.generic = 0 ∧ sample.mapped = 0 := by
  intro adapter
  have sound : adapter.source.axes.fault? = none := by decide
  have ranged (axis : Axis) (source wired : Calibration) (sourceAxis : adapter.source.axes.get axis = some source)
      (wiredAxis : adapter.wired.axes.get axis = some wired) :
      WithinRange axis source wired adapter.fraction := by
    intro direction
    cases axis <;> cases sourceAxis <;> cases wiredAxis <;> cases direction <;> decide
  constructor
  · obtain ⟨present, shows⟩ := boundary_scenarios adapter (by decide) sound ranged .ly .negative .extreme
    obtain ⟨scenario, member, named⟩ := present.mpr ⟨_, _, rfl, rfl, by decide, by simp⟩
    obtain ⟨-, -, ⟨_, _, sample, sourceAxis, wiredAxis, shown, generic, -⟩, -⟩ :=
      shows scenario member named
    cases sourceAxis
    cases wiredAxis
    exact ⟨scenario, member, named, sample, shown, generic.trans (by decide)⟩
  · obtain ⟨present, shows⟩ := boundary_scenarios adapter (by decide) sound ranged .ly .negative .deadzone
    obtain ⟨scenario, member, named⟩ := present.mpr ⟨_, _, rfl, rfl, by decide, by simp⟩
    obtain ⟨-, -, ⟨_, _, sample, sourceAxis, wiredAxis, shown, generic, still⟩, -⟩ :=
      shows scenario member named
    cases sourceAxis
    cases wiredAxis
    exact ⟨scenario, member, named, sample, shown, generic.trans (by decide), still rfl⟩

end Adapter

end PadBench
