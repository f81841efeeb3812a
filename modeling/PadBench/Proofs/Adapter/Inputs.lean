import Mathlib.Algebra.Group.Int.Defs
import PadBench.Adapter.Scenario

/-!
The inputs an adapter is tried with: each scenario displaces at most one axis from rest and expects
what the adapter predicts.
-/
namespace PadBench

/-- A step is at most the travel, or 1. -/
theorem StepSizes.ofTravels_bounds {travel : Int} (nonneg : 0 ≤ travel) (target : Int) :
    let steps := StepSizes.ofTravels travel target
    1 ≤ steps.half ∧ steps.half ≤ steps.one ∧ steps.one ≤ max travel 1 := by
  have quotient : travel.tdiv target ≤ travel := by
    rw [Int.tdiv_eq_ediv_of_nonneg nonneg]
    exact Int.ediv_le_self target nonneg
  have whole : 1 ≤ (StepSizes.ofTravels travel target).one ∧
      (StepSizes.ofTravels travel target).one ≤ max travel 1 := by
    simp only [StepSizes.ofTravels]
    split <;> omega
  have half : (StepSizes.ofTravels travel target).half =
      max ((StepSizes.ofTravels travel target).one / 2) 1 := by
    rw [← Int.tdiv_eq_ediv_of_nonneg (by omega)]
    rfl
  simp only [half]
  omega

/-- A pad at rest but for its buttons, its hat or one axis, as the scenarios of an adapter have it. -/
inductive Adapter.Tries (adapter : Adapter) : PadState → Prop
  | rest : Tries adapter adapter.restState
  | none : Tries adapter (adapter.restState.withButtons 0)
  | entry (button : PadButton) :
      Tries adapter (adapter.restState.withButtons (adapter.source.buttons.entry button))
  | union : Tries adapter (adapter.restState.withButtons adapter.source.buttons.union)
  | hat (code : UInt8) : Tries adapter (adapter.restState.withHat code)
  | axis (axis : Axis) (source wired : Calibration) (direction : Direction) (boundary : Boundary)
      (magnitude : Int) (sourceAxis : adapter.source.axes.get axis = some source)
      (wiredAxis : adapter.wired.axes.get axis = some wired)
      (tried : (boundary, magnitude) ∈
        Adapter.boundaries axis source wired adapter.fraction direction) :
      Tries adapter (adapter.displaced axis source direction magnitude)

/-- The scenarios of an adapter, each with its name, its kind and what it tries. -/
inductive Adapter.Lists (adapter : Adapter) : Scenario → Prop
  | none : Lists adapter
      (adapter.scenario ("buttons/" ++ "none") .buttons (adapter.restState.withButtons 0))
  | entry (button : PadButton) (active : button ∈ adapter.source.buttons.active) :
      Lists adapter (adapter.scenario ("buttons/" ++ button.name) .buttons
        (adapter.restState.withButtons (adapter.source.buttons.entry button)))
  | union : Lists adapter (adapter.scenario ("buttons/" ++ "all") .buttons
      (adapter.restState.withButtons adapter.source.buttons.union))
  | hat (code : Nat) (hasHat : adapter.source.hat.isSome = true) (known : code < Hat.codes) :
      Lists adapter (adapter.scenario ("hat/" ++ toString code) .hat
        (adapter.restState.withHat (UInt8.ofNat code)))
  | rest (axis : Axis) {source wired : Calibration} (sourceAxis : adapter.source.axes.get axis = some source)
      (wiredAxis : adapter.wired.axes.get axis = some wired) :
      Lists adapter (adapter.scenario ("axis/" ++ axis.name ++ "/zero") .axis adapter.restState)
  | displaced (axis : Axis) {source wired : Calibration} (direction : Direction) {boundary : Boundary}
      {magnitude : Int} (sourceAxis : adapter.source.axes.get axis = some source)
      (wiredAxis : adapter.wired.axes.get axis = some wired)
      (tried : (boundary, magnitude) ∈
        Adapter.boundaries axis source wired adapter.fraction direction) :
      Lists adapter (adapter.scenario (Adapter.axisName axis direction boundary) .axis
        (adapter.displaced axis source direction magnitude))

namespace Adapter

theorem lists_of_mem {adapter : Adapter} {scenario : Scenario} (member : scenario ∈ adapter.scenarios) :
    adapter.Lists scenario := by
  simp only [scenarios, List.mem_append] at member
  rcases member with (button | hat) | axis
  · simp only [buttonScenarios, List.mem_append, List.mem_cons, List.mem_map,
      List.not_mem_nil, or_false] at button
    rcases button with (rfl | ⟨entry, active, rfl⟩) | rfl
    · exact .none
    · exact .entry entry active
    · exact .union
  · simp only [hatScenarios] at hat
    split at hat
    · cases hat
    · rename_i encoding hasHat
      obtain ⟨code, known, rfl⟩ := List.mem_map.mp hat
      exact .hat code (hasHat ▸ rfl) (List.mem_range.mp known)
  · obtain ⟨which, _, here⟩ := List.mem_flatMap.mp axis
    simp only [oneAxisScenarios] at here
    split at here
    · rename_i source wired sourceAxis wiredAxis
      rcases List.mem_cons.mp here with rfl | displaced
      · exact .rest which sourceAxis wiredAxis
      · obtain ⟨direction, _, side⟩ := List.mem_flatMap.mp displaced
        obtain ⟨⟨boundary, magnitude⟩, tried, rfl⟩ := List.mem_map.mp side
        exact .displaced which direction sourceAxis wiredAxis tried
    · cases here

theorem tries_of_mem {adapter : Adapter} {scenario : Scenario} (member : scenario ∈ adapter.scenarios) :
    adapter.Tries scenario.input ∧ scenario.expected = adapter.predict scenario.input := by
  cases lists_of_mem member with
  | none => exact ⟨.none, rfl⟩
  | entry button active => exact ⟨.entry button, rfl⟩
  | union => exact ⟨.union, rfl⟩
  | hat code => exact ⟨.hat _, rfl⟩
  | rest axis => exact ⟨.rest, rfl⟩
  | displaced axis direction sourceAxis wiredAxis tried =>
    exact ⟨.axis axis _ _ direction _ _ sourceAxis wiredAxis tried, rfl⟩

/-- The scenario of a displacement that is tried. -/
theorem mem_scenarios_of_displaced {adapter : Adapter} (axis : Axis) {source wired : Calibration}
    (direction : Direction) {boundary : Boundary} {magnitude : Int}
    (sourceAxis : adapter.source.axes.get axis = some source)
    (wiredAxis : adapter.wired.axes.get axis = some wired)
    (tried : (boundary, magnitude) ∈ boundaries axis source wired adapter.fraction direction) :
    adapter.scenario (axisName axis direction boundary) .axis
      (adapter.displaced axis source direction magnitude) ∈ adapter.scenarios := by
  refine List.mem_append_right _ (List.mem_flatMap.mpr ⟨axis, Axis.mem_all axis, ?_⟩)
  simp only [oneAxisScenarios, sourceAxis, wiredAxis]
  refine List.mem_cons_of_mem _ (List.mem_flatMap.mpr ⟨direction, ?_, ?_⟩)
  · cases direction <;> decide
  · exact List.mem_map.mpr ⟨(boundary, magnitude), tried, rfl⟩

/-- The full travel of a side is tried, if there is any. -/
theorem extreme_mem_boundaries {axis : Axis} {source wired : Calibration} {fraction : BinaryFloat}
    {direction : Direction} (travels : 0 < source.travel direction.sign) :
    (.extreme, source.travel direction.sign) ∈ boundaries axis source wired fraction direction := by
  have short : ¬ source.travel direction.sign ≤ 0 := by omega
  simp [boundaries, short]

/-- Where the deadzone lies within the travel, so does every displacement that is tried. -/
theorem magnitude_le_travel {axis : Axis} {source wired : Calibration} {fraction : BinaryFloat}
    {direction : Direction} {boundary : Boundary} {magnitude : Int}
    (tried : (boundary, magnitude) ∈ boundaries axis source wired fraction direction)
    (short : source.travel direction.sign < 2 ^ 30)
    (dead : 0 ≤ Response.deadzone (source.travel direction.sign) source.fixedDeadzone fraction ∧
      Response.deadzone (source.travel direction.sign) source.fixedDeadzone fraction ≤
        source.travel direction.sign) :
    0 ≤ magnitude ∧ magnitude ≤ source.travel direction.sign := by
  simp only [boundaries] at tried
  split at tried
  · cases tried
  · simp only [List.mem_cons, Prod.mk.injEq] at tried
    rcases tried with ⟨_, rfl⟩ | ⟨_, rfl⟩ | steps
    · exact dead
    · omega
    · split at steps
      · rename_i resolvable
        simp only [StepSizes.isResolvable, Bool.and_eq_true, decide_eq_true_eq] at resolvable
        have bounds := StepSizes.ofTravels_bounds (Int.le_trans dead.1 dead.2)
          (wired.travel (axis.sign wired.inverted * direction.sign))
        generalize StepSizes.ofTravels _ _ = sizes at steps resolvable bounds
        -- A step is no longer than the travel, so a deadzone and a step do not leave the range.
        have inside (step : Int) (low : 0 ≤ step) (high : step ≤ max (source.travel direction.sign) 1) :
            Signed32.wrap (Response.deadzone (source.travel direction.sign) source.fixedDeadzone fraction + step) =
              Response.deadzone (source.travel direction.sign) source.fixedDeadzone fraction + step :=
          Signed32.wrap_of_mem (by rw [Signed32.least]; omega) (by rw [Signed32.greatest]; omega)
        have whole := inside sizes.one (by omega) (by omega)
        have half := inside sizes.half (by omega) (by omega)
        simp only [List.mem_cons, Prod.mk.injEq, List.not_mem_nil, or_false] at steps
        rcases steps with ⟨_, rfl⟩ | ⟨_, rfl⟩ <;> omega
      · cases steps

/-- At rest, and with an axis displaced, every axis of the pad has a value and no other axis has one. -/
theorem tries_present {adapter : Adapter} {state : PadState} (tried : adapter.Tries state) (axis : Axis) :
    (state.axes.get axis).isSome = (adapter.source.axes.get axis).isSome := by
  have rest : (adapter.restState.axes.get axis).isSome = (adapter.source.axes.get axis).isSome := by
    simp [restState, PadState.neutral]
  cases tried with
  | rest | none | entry | union | hat => exact rest
  | axis which source wired direction boundary magnitude sourceAxis =>
    simp only [displaced, PadState.withAxis, PerAxis.get_set]
    split
    · rename_i here
      simp [here, sourceAxis]
    · exact rest

end Adapter

end PadBench
