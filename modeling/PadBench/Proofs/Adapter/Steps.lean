import PadBench.Proofs.Adapter.Narrow

/-!
The scenarios around the first step of a console's axis.

A step is sized by the whole travels, but what lies short of the full travel is scaled by the pull-back
travel past a deadzone of its own.

* `mapped_of_short`: the scaled value of a displacement between deadzone and full travel;
* `mapped_first_step_iff`: when it is one unit of the console's axis, and when none;
* `step_scenarios_iff`: when the scenarios of an adapter expect what their names say.
-/
namespace PadBench

namespace Response

/-- A displacement of `magnitude` on one side of an axis comes to `goal` units of the console's axis: past
the pull-back deadzone, in units of which the rest of the pull-back travel makes the console's travel. -/
def ReachesShort (goal : Int) (axis : Axis) (source wired : Calibration) (fraction : BinaryFloat)
    (direction : Direction) (magnitude : Int) : Prop :=
  let travel := source.travel direction.sign
  let dead := pullBackDead travel source.fixedDeadzone fraction
  BinaryFloat.Reaches goal (magnitude - dead) (wired.travel (axis.sign wired.inverted * direction.sign))
    (pullBackTravel travel - dead)

instance (goal : Int) (axis : Axis) (source wired : Calibration) (fraction : BinaryFloat)
    (direction : Direction) (magnitude : Int) :
    Decidable (ReachesShort goal axis source wired fraction direction magnitude) :=
  inferInstanceAs (Decidable (BinaryFloat.Reaches _ _ _ _))

variable {axis : Axis} {source wired : Calibration} {fraction : BinaryFloat} {direction : Direction}
  {magnitude : Int}

/-- A raw value within the range shows the displacement that it was made from. -/
theorem generic_displaced (nonneg : 0 ≤ magnitude) (small : magnitude < 2 ^ 31)
    (exact : Adapter.rawValue axis source direction magnitude =
      source.neutral + axis.sign source.inverted * direction.sign * magnitude) :
    generic axis source (Adapter.rawValue axis source direction magnitude) = direction.sign * magnitude := by
  rw [exact, Axis.sign_eq]
  simp only [generic, Axis.sign_eq]
  cases source.inverted <;> cases direction <;>
    simp only [Direction.sign, Signed32.saturate, Signed32.least, Signed32.greatest] <;> simp <;> omega

theorem magnitude_displaced (direction : Direction) (nonneg : 0 ≤ magnitude) (small : magnitude < 2 ^ 31) :
    Response.magnitude (direction.sign * magnitude) = magnitude := by
  cases direction <;>
    simp only [Response.magnitude, Direction.sign, Signed32.saturate, Signed32.least, Signed32.greatest] <;>
    omega

theorem travel_displaced (positive : 0 < magnitude) :
    source.travel (direction.sign * magnitude) = source.travel direction.sign := by
  cases direction <;> simp only [Calibration.travel, Direction.sign] <;> congr 1 <;> simp <;> omega

theorem sign_displaced (positive : 0 < magnitude) :
    (direction.sign * magnitude).sign = direction.sign := by
  rw [Int.sign_mul, Int.sign_eq_one_of_pos positive, Int.mul_one]
  cases direction <;> rfl

/-- A displacement past the deadzone and short of the full travel, of a side that the pull-back leaves some
travel, in numbers that single precision holds. -/
structure IsShort (source : Calibration) (fraction : BinaryFloat) (direction : Direction) (magnitude : Int) :
    Prop where
  positive : 0 < magnitude
  live : deadzone (source.travel direction.sign) source.fixedDeadzone fraction < magnitude
  short : magnitude < source.travel direction.sign
  narrow : source.travel direction.sign < 2 ^ 16
  dead : 0 ≤ pullBackDead (source.travel direction.sign) source.fixedDeadzone fraction
  moves : pullBackDead (source.travel direction.sign) source.fixedDeadzone fraction <
    pullBackTravel (source.travel direction.sign)

/-- A console's axis that travels to a side and stores two units of it. -/
structure HoldsSteps (wired : Calibration) (side : Int) (range : StorageRange) : Prop where
  moves : 0 < wired.travel side
  narrow : wired.travel side < 2 ^ 16
  ranged : wired.range = some range
  rest : range.least ≤ 0 ∧ 0 ≤ range.greatest
  room : range.least ≤ side * 2 ∧ side * 2 ≤ range.greatest

/-- Short of the full travel the pull-back regime applies. -/
theorem mapped_of_short (isShort : IsShort source fraction direction magnitude) {range : StorageRange}
    (ranged : wired.range = some range) :
    mapped axis source wired fraction (direction.sign * magnitude) =
      range.clamp (axis.sign wired.inverted * direction.sign *
        max (BinaryFloat.scaled
          (magnitude - pullBackDead (source.travel direction.sign) source.fixedDeadzone fraction)
          (wired.travel (axis.sign wired.inverted * direction.sign))
          (pullBackTravel (source.travel direction.sign) -
            pullBackDead (source.travel direction.sign) source.fixedDeadzone fraction)) 0) := by
  obtain ⟨positive, live, short, narrow, dead_nonneg, moves⟩ := isShort
  obtain ⟨_, pulled_le⟩ := pullBackTravel_narrow ⟨positive.le.trans short.le, narrow⟩
  have size := magnitude_displaced direction positive.le (by omega)
  have exact : IsExact (pullBackDead (source.travel direction.sign) source.fixedDeadzone fraction)
      (pullBackTravel (source.travel direction.sign)) magnitude :=
    isExact_of_nonneg dead_nonneg ⟨by omega, by rw [Signed32.greatest]; omega⟩
      ⟨positive.le, by rw [Signed32.greatest]; omega⟩ (by rw [Signed32.greatest]; omega)
  have carries : (span magnitude (source.travel direction.sign) source.fixedDeadzone fraction).Carries
      magnitude := by
    rw [span_of_short short moves]
    exact ⟨moves, exact⟩
  have alive : isDead source fraction (direction.sign * magnitude) = false := by
    simp only [isDead, travel_displaced positive, size, decide_eq_false_iff_not]
    omega
  simp only [mapped, alive, Bool.false_eq_true, if_false, ranged, sign_displaced positive,
    travel_displaced positive, size, apply_regime carries, span_of_short short moves]

/-- What the scaled size reaches of the first two units, the displacement reaches in exact arithmetic. -/
theorem le_scaled_iff_reachesShort (goal : Int) (low : 0 < goal) (high : goal ≤ 2)
    (isShort : IsShort source fraction direction magnitude) {range : StorageRange}
    (holds : HoldsSteps wired (axis.sign wired.inverted * direction.sign) range) :
    goal ≤ BinaryFloat.scaled
        (magnitude - pullBackDead (source.travel direction.sign) source.fixedDeadzone fraction)
        (wired.travel (axis.sign wired.inverted * direction.sign))
        (pullBackTravel (source.travel direction.sign) -
          pullBackDead (source.travel direction.sign) source.fixedDeadzone fraction) ↔
      ReachesShort goal axis source wired fraction direction magnitude := by
  obtain ⟨positive, _, short, narrow, dead_nonneg, moves⟩ := isShort
  obtain ⟨_, pulled_le⟩ := pullBackTravel_narrow ⟨positive.le.trans short.le, narrow⟩
  obtain ⟨target_pos, target_narrow, _⟩ := holds
  simp only [ReachesShort]
  generalize pullBackDead (source.travel direction.sign) source.fixedDeadzone fraction = dead at *
  generalize pullBackTravel (source.travel direction.sign) = travel at *
  obtain ⟨span, hspan⟩ : ∃ span : Nat, travel - dead = span := ⟨(travel - dead).toNat, by omega⟩
  obtain ⟨units, hunits⟩ := Int.eq_ofNat_of_zero_le target_pos.le
  rw [hunits] at target_pos target_narrow
  rw [hspan, hunits]
  have product : goal * span < 2 ^ 22 := by
    calc goal * span ≤ 2 * span := Int.mul_le_mul_of_nonneg_right high (Int.natCast_nonneg span)
      _ < 2 ^ 22 := by omega
  exact BinaryFloat.le_scaled_iff low (by omega) (by omega) (by omega) (by omega) product

/-- In a range with room for two units on a side, one unit and none stay what they are. -/
theorem clamp_side {range : StorageRange} {side size : Int} (unit : side = 1 ∨ side = -1)
    (rest : range.least ≤ 0 ∧ 0 ≤ range.greatest)
    (room : range.least ≤ side * 2 ∧ side * 2 ≤ range.greatest) (nonneg : 0 ≤ size) :
    ((range.clamp (side * size)).natAbs = 1 ↔ size = 1) ∧ (range.clamp (side * size) = 0 ↔ size = 0) := by
  unfold StorageRange.clamp
  rcases unit with rfl | rfl
  all_goals
    constructor
    all_goals
      split
      · omega
      · split <;> omega

/-- When a displacement short of the full travel moves the console's axis by one unit, and when by none. -/
theorem mapped_first_step_iff (isShort : IsShort source fraction direction magnitude) {range : StorageRange}
    (holds : HoldsSteps wired (axis.sign wired.inverted * direction.sign) range) :
    ((mapped axis source wired fraction (direction.sign * magnitude)).natAbs = 1 ↔
      ReachesShort 1 axis source wired fraction direction magnitude ∧
        ¬ ReachesShort 2 axis source wired fraction direction magnitude) ∧
    (mapped axis source wired fraction (direction.sign * magnitude) = 0 ↔
      ¬ ReachesShort 1 axis source wired fraction direction magnitude) := by
  have side := side_unit axis wired direction
  have one := le_scaled_iff_reachesShort 1 (by decide) (by decide) isShort holds
  have two := le_scaled_iff_reachesShort 2 (by decide) (by decide) isShort holds
  obtain ⟨atOne, atZero⟩ := clamp_side side holds.rest holds.room (Int.le_max_right _ 0)
  rw [mapped_of_short isShort holds.ranged, atOne, atZero, ← one, ← two]
  omega

end Response

/-- On each side that an axis has, its fixed deadzone leaves more than half of the pull-back travel. -/
def Calibration.LeavesTravel (calibration : Calibration) : Prop :=
  ∀ direction ∈ Direction.all, 0 < calibration.travel direction.sign →
    2 * calibration.fixedDeadzone + 1 < Response.pullBackTravel (calibration.travel direction.sign)

instance (calibration : Calibration) : Decidable calibration.LeavesTravel :=
  inferInstanceAs (Decidable (∀ direction ∈ Direction.all, _))

theorem WirelessPad.axes_leaveTravel (pad : WirelessPad) {axis : Axis} {source : Calibration}
    (has : pad.axes.get axis = some source) : source.LeavesTravel := by
  cases pad <;> cases axis <;> cases has <;> decide

/-- On every side it travels to, an axis of a console stores two units and more. -/
theorem Console.axes_holdSteps (console : Console) {axis : Axis} {wired : Calibration}
    (has : console.axes.get axis = some wired) {side : Int} (unit : side = 1 ∨ side = -1)
    (moves : 0 < wired.travel side) : ∃ range, Response.HoldsSteps wired side range := by
  cases console <;> cases axis <;> cases has <;> rcases unit with rfl | rfl <;>
    first
    | exact absurd moves (by decide)
    | exact ⟨_, moves, by decide, rfl, by decide, by decide⟩

namespace Adapter

variable {axis : Axis} {source wired : Calibration} {fraction : BinaryFloat} {direction : Direction}
  {magnitude : Int}

/-- The deadzone of the whole travel of a side. -/
def sideDead (source : Calibration) (fraction : BinaryFloat) (direction : Direction) : Int :=
  Response.deadzone (source.travel direction.sign) source.fixedDeadzone fraction

/-- The step sizes of a side. -/
def sideSteps (axis : Axis) (source wired : Calibration) (direction : Direction) : StepSizes :=
  .ofTravels (source.travel direction.sign) (wired.travel (axis.sign wired.inverted * direction.sign))

/-- Steps that can be told apart are those of an axis that the console moves, and stay short of the full
travel. -/
theorem step_of_tried (half : fraction.IsHalfShare) (narrow : source.IsNarrow) {boundary : Boundary}
    (step : boundary = .minStep ∨ boundary = .subStep)
    (tried : (boundary, magnitude) ∈ boundaries axis source wired fraction direction) :
    0 < wired.travel (axis.sign wired.inverted * direction.sign) ∧
      magnitude < source.travel direction.sign ∧ sideDead source fraction direction < magnitude ∧
      (boundary = .minStep →
        magnitude = sideDead source fraction direction + (sideSteps axis source wired direction).one) ∧
      (boundary = .subStep →
        magnitude = sideDead source fraction direction + (sideSteps axis source wired direction).half) := by
  obtain ⟨whole, part⟩ :=
    wrap_steps half narrow direction (wired.travel (axis.sign wired.inverted * direction.sign))
  simp only [boundaries, whole, part] at tried
  split at tried
  · cases tried
  simp only [List.mem_cons, Prod.mk.injEq] at tried
  rcases tried with ⟨rfl, _⟩ | ⟨rfl, _⟩ | tried
  · rcases step with step | step <;> cases step
  · rcases step with step | step <;> cases step
  split at tried
  · rename_i resolvable
    simp only [StepSizes.isResolvable, Bool.and_eq_true, decide_eq_true_eq] at resolvable
    obtain ⟨apart, short⟩ := resolvable
    have moves : 0 < wired.travel (axis.sign wired.inverted * direction.sign) := by
      by_contra still
      simp only [StepSizes.ofTravels, if_neg still] at apart
      revert apart
      decide
    have least : 1 ≤ (StepSizes.ofTravels (source.travel direction.sign)
        (wired.travel (axis.sign wired.inverted * direction.sign))).half := Int.le_max_right _ _
    simp only [List.mem_cons, Prod.mk.injEq, List.not_mem_nil, or_false] at tried
    simp only [sideDead, sideSteps]
    rcases tried with ⟨rfl, rfl⟩ | ⟨rfl, rfl⟩
    · refine ⟨moves, short, by omega, fun _ => rfl, ?_⟩
      intro isSub
      cases isSub
    · refine ⟨moves, by omega, by omega, ?_, fun _ => rfl⟩
      intro isMin
      cases isMin
  · cases tried

/-- A step that is tried lies past the deadzone and short of the full travel of its side. -/
theorem isShort_of_tried (half : fraction.IsHalfShare) (narrow : source.IsNarrow)
    (leaves : source.LeavesTravel) {boundary : Boundary} (step : boundary = .minStep ∨ boundary = .subStep)
    (tried : (boundary, magnitude) ∈ boundaries axis source wired fraction direction) :
    Response.IsShort source fraction direction magnitude := by
  have side : direction ∈ Direction.all := by cases direction <;> decide
  obtain ⟨travel_nonneg, travel_narrow⟩ := narrow.travel direction.sign
  obtain ⟨fixed_nonneg, fixed_narrow⟩ := narrow.fixed
  have leaves := leaves direction side
  obtain ⟨_, short, live, _, _⟩ := step_of_tried half narrow step tried
  obtain ⟨pulled_nonneg, pulled_le⟩ := Response.pullBackTravel_narrow ⟨travel_nonneg, travel_narrow⟩
  obtain ⟨dead_low, _⟩ :=
    Response.deadzone_le_half half ⟨travel_nonneg, by omega⟩ ⟨fixed_nonneg, by omega⟩
  obtain ⟨pulled_dead_low, pulled_dead_high⟩ :=
    Response.deadzone_le_half half ⟨pulled_nonneg, by omega⟩ ⟨fixed_nonneg, by omega⟩
  rw [sideDead] at live
  exact {
    positive := by omega
    live := live
    short := short
    narrow := travel_narrow
    dead := by rw [Response.pullBackDead]; omega
    moves := by
      have := leaves (by omega)
      rw [Response.pullBackDead]
      omega }

/-- What is expected of an axis that is displaced. -/
theorem expected_displaced (adapter : Adapter) (name : String) (direction : Direction) (magnitude : Int)
    (sourceAxis : adapter.source.axes.get axis = some source)
    (wiredAxis : adapter.wired.axes.get axis = some wired) :
    (adapter.scenario name .axis (adapter.displaced axis source direction magnitude)).expected.axes.get axis =
      some (Response.sample axis source wired adapter.fraction (rawValue axis source direction magnitude)) := by
  have raw : (adapter.displaced axis source direction magnitude).axes.get axis =
      some (rawValue axis source direction magnitude) := by
    rw [displaced, PadState.withAxis, PerAxis.get_set, if_pos rfl]
  simp only [Adapter.scenario, predict, PerAxis.get_ofFn, axisSample, sourceAxis, wiredAxis, raw]
  rfl

/-- What the step scenarios of a pad and a console expect. Each displaces an axis by a step past the deadzone
of its whole travel. The whole step is expected to move the console's axis by one unit exactly if it comes
to one and not to two in the pull-back regime, and the half step not to move it exactly if it does not
come to one. -/
theorem step_scenarios_iff (pad : WirelessPad) (console : Console) (fraction : BinaryFloat)
    (sourceAxis : pad.axes.get axis = some source) (wiredAxis : console.axes.get axis = some wired)
    {boundary : Boundary} (step : boundary = .minStep ∨ boundary = .subStep) :
    let adapter : Adapter := .withFraction pad.profile console.profile fraction
    (boundary, magnitude) ∈ boundaries axis source wired adapter.fraction direction →
      let scenario := adapter.scenario (axisName axis direction boundary) .axis
        (adapter.displaced axis source direction magnitude)
      let reaches (goal : Int) :=
        Response.ReachesShort goal axis source wired adapter.fraction direction magnitude
      scenario ∈ adapter.scenarios ∧
      ∃ sample, scenario.expected.axes.get axis = some sample ∧
        (boundary = .minStep →
          magnitude = sideDead source adapter.fraction direction +
            (sideSteps axis source wired direction).one ∧
          (sample.mapped.natAbs = 1 ↔ reaches 1 ∧ ¬ reaches 2)) ∧
        (boundary = .subStep →
          magnitude = sideDead source adapter.fraction direction +
            (sideSteps axis source wired direction).half ∧
          (sample.mapped = 0 ↔ ¬ reaches 1)) := by
  intro adapter tried scenario reaches
  have half : adapter.fraction.IsHalfShare :=
    withFraction_isHalfShare pad.profile console.profile fraction
  have narrow := pad.axes_narrow sourceAxis
  obtain ⟨moves, _, _, one, other⟩ := step_of_tried half narrow step tried
  have isShort : Response.IsShort source adapter.fraction direction magnitude :=
    isShort_of_tried half narrow (pad.axes_leaveTravel sourceAxis) step tried
  obtain ⟨range, holds⟩ := console.axes_holdSteps wiredAxis (Response.side_unit axis wired direction) moves
  obtain ⟨atOne, atZero⟩ := Response.mapped_first_step_iff isShort holds
  have expected := adapter.expected_displaced (axisName axis direction boundary) direction magnitude
    sourceAxis wiredAxis
  have mapped : (Response.sample axis source wired adapter.fraction
      (rawValue axis source direction magnitude)).mapped =
      Response.mapped axis source wired adapter.fraction (direction.sign * magnitude) := by
    have bounds := boundaries_narrow half narrow tried
    simp only [Response.sample, Response.generic_displaced bounds.1 (by omega) (rawValue_eq narrow bounds)]
  refine ⟨mem_scenarios_of_displaced axis direction sourceAxis wiredAxis tried, _, expected, ?_, ?_⟩
  · intro isMin
    rw [mapped]
    exact ⟨one isMin, atOne⟩
  · intro isSub
    rw [mapped]
    exact ⟨other isSub, atZero⟩

/-- At the share that adapters ship with, the whole step of a Switch stick moves a GameCube stick by one. -/
theorem step_scenarios_iff_switchPro :
    let adapter : Adapter := .withDefaults WirelessPad.switchPro.profile Console.gameCube.profile
    WirelessPad.switchPro.axes.get .lx = some Wireless.Axes.switchFullStick ∧
    Console.gameCube.axes.get .lx = some Wired.Axes.gameCubeStick ∧
    (Boundary.minStep, 32) ∈ boundaries .lx Wireless.Axes.switchFullStick Wired.Axes.gameCubeStick
      adapter.fraction .positive ∧
    ∃ sample, (adapter.scenario "axis/LX/positive/min_step" .axis
        (adapter.displaced .lx Wireless.Axes.switchFullStick .positive 32)).expected.axes.get .lx = some sample ∧
      sample.mapped.natAbs = 1 := by
  intro adapter
  have tried : (Boundary.minStep, 32) ∈ boundaries .lx Wireless.Axes.switchFullStick
      Wired.Axes.gameCubeStick adapter.fraction .positive := by decide
  refine ⟨rfl, rfl, tried, ?_⟩
  obtain ⟨_, sample, expected, min, _⟩ := step_scenarios_iff .switchPro .gameCube Response.defaultFraction
    rfl rfl (.inl rfl) tried
  exact ⟨sample, expected, (min rfl).2.mpr (by decide)⟩

/-- At the same share the whole step of an Xbox trigger moves a GameCube trigger by nothing; with a quarter
of the travel dead, the half step of an Xbox stick moves a GameCube stick. -/
theorem step_scenarios_miss :
    (∃ scenario ∈ (withDefaults WirelessPad.xbox.profile Console.gameCube.profile).scenarios,
      scenario.name = "axis/LM/positive/min_step" ∧
        ∃ sample, scenario.expected.axes.get .lm = some sample ∧ sample.mapped = 0) ∧
    ∃ scenario ∈ (withFraction WirelessPad.xbox.profile Console.gameCube.profile
        (.ofDecimal .single false 25 (-2))).scenarios,
      scenario.name = "axis/LX/positive/sub_step" ∧
        ∃ sample, scenario.expected.axes.get .lx = some sample ∧ sample.mapped = 2 := by
  constructor
  · have tried : (Boundary.minStep, 17) ∈ boundaries .lm (.asymmetric 0x000 0x3FF 0x000)
        Wired.Axes.gameCubeTrigger
        (withDefaults WirelessPad.xbox.profile Console.gameCube.profile).fraction .positive := by decide
    exact ⟨_, mem_scenarios_of_displaced .lm .positive rfl rfl tried, rfl, _, rfl, by decide⟩
  · have tried : (Boundary.subStep, 8354) ∈ boundaries .lx (.asymmetric 0x8000 0x7FFF 0x8000)
        Wired.Axes.gameCubeStick (withFraction WirelessPad.xbox.profile Console.gameCube.profile
          (.ofDecimal .single false 25 (-2))).fraction .positive := by decide
    exact ⟨_, mem_scenarios_of_displaced .lx .positive rfl rfl tried, rfl, _, rfl, by decide⟩

end Adapter

end PadBench
