import PadBench.Proofs.Adapter.Narrow
import PadBench.Proofs.Pad.Checked
import PadBench.Proofs.Wired.Storage

/-!
The shipped axes stay within the range.

All their numbers have sixteen bits, and what is computed of them leaves room for the signs and the sums.

* `Response.sample?_eq`: for such numbers nothing leaves the range on the way to a sample, whatever the raw value
  is;
* `Adapter.boundaries?_eq`, `Adapter.rawValues?_eq`: nor on the way to the raw values that an axis is tried at;
* `arithmetic_in_range`: so it is for every axis of every pad on every console, and those raw values are the ones
  of the scenarios.
-/
namespace PadBench

theorem Signed32.fit?_of_mem {value : Int} (low : -2 ^ 31 ≤ value) (high : value < 2 ^ 31) :
    fit? value = some value :=
  if_pos ⟨low, Int.le_of_lt_add_one high⟩

namespace Response

variable {travel target fixed size dead : Int} {fraction : BinaryFloat}

theorem Regime.onto?_eq (live : dead < travel) (dead_nonneg : 0 ≤ dead) (travel_narrow : travel < 2 ^ 16) :
    Regime.onto? dead travel target = some (Regime.onto dead travel target) := by
  have left : Signed32.sub? travel dead = some (travel - dead) :=
    Signed32.fit?_of_mem (by omega) (by omega)
  have exact : Signed32.wrap (travel - dead) = travel - dead := Signed32.wrap_of_small (by omega) (by omega)
  rw [Regime.onto?, left, Option.bind_eq_bind, Option.bind_some, if_pos (by omega), Regime.onto, exact]

theorem Regime.applied?_eq {regime : Regime} (dead : 0 ≤ regime.deadzone ∧ regime.deadzone < 2 ^ 17)
    (sizes : 0 ≤ size ∧ size < 2 ^ 31) : regime.applied? size = some (regime.apply size) := by
  have past : Signed32.sub? size regime.deadzone = some (size - regime.deadzone) :=
    Signed32.fit?_of_mem (by omega) (by omega)
  have exact : Signed32.wrap (size - regime.deadzone) = size - regime.deadzone :=
    Signed32.wrap_of_small (by omega) (by omega)
  rw [Regime.applied?, past, Option.bind_eq_bind, Option.bind_some, Regime.apply, exact]
  rfl

section Narrow

variable (half : fraction.IsHalfShare) (travels : 0 ≤ travel ∧ travel < 2 ^ 16)
  (fixes : 0 ≤ fixed ∧ fixed < 2 ^ 16)
include half travels fixes

theorem deadzone?_eq : deadzone? travel fixed fraction = some (deadzone travel fixed fraction) := by
  have bounds := deadzone_narrow half travels fixes
  have exact : deadzone travel fixed fraction = share travel fraction + fixed :=
    deadzone_eq_of_short half ⟨travels.1, by omega⟩ ⟨fixes.1, by omega⟩
  rw [exact] at bounds ⊢
  exact Signed32.fit?_of_mem (by omega) (by omega)

theorem pulledBack?_eq :
    pulledBack? travel target fixed fraction = some (pullBack? travel target fixed fraction) := by
  have hundredfold : Signed32.mul? travel pullBackPercent = some (travel * pullBackPercent) :=
    Signed32.fit?_of_mem (by rw [pullBackPercent]; omega) (by rw [pullBackPercent]; omega)
  have shorter : (travel * pullBackPercent).tdiv 100 = pullBackTravel travel := by
    rw [pullBackTravel, Signed32.wrap_of_small (by rw [pullBackPercent]; omega)
      (by rw [pullBackPercent]; omega)]
  obtain ⟨pulled_nonneg, pulled_le⟩ := pullBackTravel_narrow travels
  have dead := deadzone?_eq half ⟨pulled_nonneg, by omega⟩ fixes
  have dead_narrow := deadzone_narrow half ⟨pulled_nonneg, by omega⟩ fixes
  rw [pulledBack?, hundredfold, Option.bind_eq_bind, Option.bind_some, shorter, pullBack?]
  simp only [dead, Option.bind_eq_bind, Option.bind_some]
  split
  · rfl
  · rename_i moves
    rw [Regime.onto?_eq (not_le.mp moves) dead_narrow.1 (by omega)]
    rfl

theorem regime?_eq (size target : Int) (live : deadzone travel fixed fraction < travel) :
    regime? (deadzone travel fixed fraction) size travel target fixed fraction =
      some (regime size travel target fixed fraction) := by
  have full : Regime.onto? (deadzone travel fixed fraction) travel target = some (.onto _ travel target) :=
    Regime.onto?_eq live (deadzone_narrow half travels fixes).1 travels.2
  rw [regime?, regime]
  split
  · exact full
  · rw [pulledBack?_eq half travels fixes, Option.bind_eq_bind, Option.bind_some]
    cases pullBack? travel target fixed fraction with
    | none => exact full
    | some short => rfl

/-- The deadzone of a regime is that of the travel or that of the pull-back travel. -/
theorem regime_deadzone_narrow (size target : Int) :
    0 ≤ (regime size travel target fixed fraction).deadzone ∧
      (regime size travel target fixed fraction).deadzone < 2 ^ 17 := by
  obtain ⟨pulled_nonneg, pulled_le⟩ := pullBackTravel_narrow travels
  rw [regime_eq_onto, Regime.onto, span]
  split
  · exact deadzone_narrow half travels fixes
  · exact deadzone_narrow half ⟨pulled_nonneg, by omega⟩ fixes

end Narrow

theorem magnitude_bounds (value : Int) : 0 ≤ magnitude value ∧ magnitude value < 2 ^ 31 := by
  rw [magnitude, Signed32.saturate, Signed32.least, Signed32.greatest]
  omega

theorem Regime.apply_lt (regime : Regime) (size : Int) : regime.apply size < 2 ^ 31 :=
  Int.lt_add_one_of_le (BinaryFloat.truncate_le_greatest _)

/-- A polarity times the sign of a value is a direction, or 0. -/
theorem mul?_signs (axis : Axis) (inverted : Bool) (value : Int) :
    Signed32.mul? (axis.sign inverted) value.sign = some (axis.sign inverted * value.sign) ∧
      -1 ≤ axis.sign inverted * value.sign ∧ axis.sign inverted * value.sign ≤ 1 := by
  have bounds : -1 ≤ axis.sign inverted * value.sign ∧ axis.sign inverted * value.sign ≤ 1 := by
    rw [Axis.sign_eq]
    rcases Int.sign_trichotomy value with sign | sign | sign <;> rw [sign] <;> cases inverted <;> decide
  exact ⟨Signed32.fit?_of_mem (by omega) (by omega), bounds⟩

/-- A direction times a size is in the range, like the size. -/
theorem mul?_direction {direction size : Int} (low : -1 ≤ direction) (high : direction ≤ 1)
    (sizes : 0 ≤ size ∧ size < 2 ^ 31) : Signed32.mul? direction size = some (direction * size) := by
  obtain rfl | rfl | rfl : direction = -1 ∨ direction = 0 ∨ direction = 1 := by omega
  all_goals exact Signed32.fit?_of_mem (by omega) (by omega)

variable {axis : Axis} {source wired : Calibration} {range : StorageRange}

theorem stored?_eq {value : Int} (half : fraction.IsHalfShare) (narrow : source.IsNarrow)
    (live : isDead source fraction value = false) :
    stored? axis source wired fraction (deadzone (source.travel value) source.fixedDeadzone fraction) value =
      some (mapped axis source wired fraction value) := by
  have travels := narrow.travel value
  have past_dead : deadzone (source.travel value) source.fixedDeadzone fraction < source.travel value := by
    simp only [isDead, decide_eq_false_iff_not, not_or] at live
    omega
  obtain ⟨direction, low, high⟩ := mul?_signs axis wired.inverted value
  have scale := regime?_eq half travels narrow.fixed (magnitude value)
    (wired.travel (axis.sign wired.inverted * value.sign)) past_dead
  have scale_narrow := regime_deadzone_narrow half travels narrow.fixed (magnitude value)
    (wired.travel (axis.sign wired.inverted * value.sign))
  have past := Regime.applied?_eq scale_narrow (magnitude_bounds value)
  have scaled (size : Int) (bounded : size < 2 ^ 31) :=
    mul?_direction low high ⟨le_max_right size 0, max_lt bounded (by decide)⟩
  simp only [stored?, direction, scale, past, scaled _ (Regime.apply_lt _ _), Option.bind_eq_bind,
    Option.bind_some, mapped, live, Bool.false_eq_true, if_false]
  cases wired.range <;> rfl

/-- For numbers of sixteen bits nothing leaves the range on the way to a sample, whatever the raw value is. -/
theorem sample?_eq (half : fraction.IsHalfShare) (narrow : source.IsNarrow) (stores : wired.StoresNarrow range)
    (raw : Int) : sample? axis source wired fraction raw = some (sample axis source wired fraction raw) := by
  have travels := narrow.travel (generic axis source raw)
  rw [sample?]
  simp only [deadzone?_eq half travels narrow.fixed, Option.bind_eq_bind, Option.bind_some]
  split
  · rename_i dead
    have still : isDead source fraction (generic axis source raw) = true := decide_eq_true dead
    rw [sample, wiredValue, mapped, if_pos still, if_pos still]
    rfl
  · rename_i live
    have moves : isDead source fraction (generic axis source raw) = false := decide_eq_false live
    have stored := mapped_narrow axis source fraction stores (generic axis source raw)
    have neutral := stores.neutral
    have sum : Signed32.add? (mapped axis source wired fraction (generic axis source raw)) wired.neutral =
        some _ :=
      Signed32.fit?_of_mem (by omega) (by omega)
    have wire : (sample axis source wired fraction raw).wired =
        mapped axis source wired fraction (generic axis source raw) + wired.neutral :=
      sample_wired axis source fraction stores raw
    rw [stored?_eq half narrow moves, Option.bind_some, sum, ← wire]
    rfl

/-- A travel of 25 bits times 95 is past the range. -/
example : sample? .lx (.symmetric 0 30000000) Wired.Axes.gameCubeStick defaultFraction 20000000 = none := by
  decide

end Response

namespace Adapter

variable {axis : Axis} {source wired : Calibration} {fraction : BinaryFloat} {direction : Direction}

/-- A deadzone and a step past it are in the range. -/
theorem add?_step (half : fraction.IsHalfShare) (narrow : source.IsNarrow) (value step : Int)
    (steps : 0 ≤ step ∧ step ≤ 2 ^ 16) :
    Signed32.add? (Response.deadzone (source.travel value) source.fixedDeadzone fraction) step =
      some (Response.deadzone (source.travel value) source.fixedDeadzone fraction + step) := by
  have dead := Response.deadzone_narrow half (narrow.travel value) narrow.fixed
  exact Signed32.fit?_of_mem (by omega) (by omega)

theorem mul?_side (axis : Axis) (calibration : Calibration) (direction : Direction) :
    Signed32.mul? (axis.sign calibration.inverted) direction.sign =
      some (axis.sign calibration.inverted * direction.sign) := by
  have unit := Response.side_unit axis calibration direction
  exact Signed32.fit?_of_mem (by omega) (by omega)

/-- For numbers of sixteen bits nothing leaves the range on the way to the displacements that are tried. -/
theorem boundaries?_eq (half : fraction.IsHalfShare) (narrow : source.IsNarrow) :
    boundaries? axis source wired fraction direction = some (boundaries axis source wired fraction direction) := by
  have travels := narrow.travel direction.sign
  have dead := Response.deadzone?_eq half travels narrow.fixed
  have side := mul?_side axis wired direction
  have bounds :=
    StepSizes.ofTravels_bounds travels.1 (wired.travel (axis.sign wired.inverted * direction.sign))
  obtain ⟨one, other⟩ :=
    wrap_steps half narrow direction (wired.travel (axis.sign wired.inverted * direction.sign))
  have whole := add?_step half narrow direction.sign
    (StepSizes.ofTravels (source.travel direction.sign)
      (wired.travel (axis.sign wired.inverted * direction.sign))).one (by omega)
  have part := add?_step half narrow direction.sign
    (StepSizes.ofTravels (source.travel direction.sign)
      (wired.travel (axis.sign wired.inverted * direction.sign))).half (by omega)
  simp only [boundaries?, boundaries, dead, side, whole, part, one, other, Option.bind_eq_bind,
    Option.bind_some]
  split
  · rfl
  · split
    · rename_i resolvable
      simp only [resolvable, Bool.true_and, decide_eq_true_eq]
      split <;> rfl
    · rename_i coincide
      simp only [coincide, Bool.false_and, Bool.false_eq_true, if_false]
      rfl

/-- Steps that all succeed are the list of their results. -/
theorem mapM_eq_some {α β : Type} {items : List α} {step : α → Option β} {value : α → β}
    (steps : ∀ item ∈ items, step item = some (value item)) : items.mapM step = some (items.map value) := by
  induction items with
  | nil => rfl
  | cons item items ih =>
    rw [List.forall_mem_cons] at steps
    rw [List.mapM_cons, steps.1, ih steps.2]
    rfl

/-- Nor does anything leave it on the way from there to the raw values. -/
theorem rawValues?_eq (half : fraction.IsHalfShare) (narrow : source.IsNarrow) :
    rawValues? axis source wired fraction direction = some (rawValues axis source wired fraction direction) := by
  have unit := Response.side_unit axis source direction
  rw [rawValues?, mul?_side, Option.bind_eq_bind, Option.bind_some, boundaries?_eq half narrow,
    Option.bind_eq_bind, Option.bind_some, rawValues]
  apply mapM_eq_some
  rintro ⟨boundary, magnitude⟩ tried
  have bounds := boundaries_narrow half narrow tried
  have shift : Signed32.mul? (axis.sign source.inverted * direction.sign) magnitude = some _ :=
    Response.mul?_direction (by omega) (by omega) ⟨bounds.1, by omega⟩
  have neutral := narrow.neutral
  have sum : Signed32.add? source.neutral (axis.sign source.inverted * direction.sign * magnitude) =
      some (source.neutral + axis.sign source.inverted * direction.sign * magnitude) := by
    rcases unit with unit | unit <;> rw [unit] <;> exact Signed32.fit?_of_mem (by omega) (by omega)
  simp only [shift, sum, rawValue_eq narrow bounds, Option.bind_eq_bind, Option.bind_some]
  rfl

end Adapter

/-- On every axis that a pad and a console have, and for every share that an adapter can be built with: nothing
leaves the range, and no factor is taken over a travel that is not positive, on the way from any raw value to its
sample, and on the way to the raw values that the axis is tried at. Those are what the scenarios of the axis put
in. -/
theorem arithmetic_in_range (pad : WirelessPad) (console : Console) {axis : Axis} {source wired : Calibration}
    {fraction : BinaryFloat} (sourceAxis : pad.axes.get axis = some source)
    (wiredAxis : console.axes.get axis = some wired) (admissible : Adapter.IsAdmissible fraction) :
    (∀ raw, Response.sample? axis source wired fraction raw =
      some (Response.sample axis source wired fraction raw)) ∧
    ∀ direction, Adapter.rawValues? axis source wired fraction direction =
        some (Adapter.rawValues axis source wired fraction direction) ∧
      let adapter : Adapter := .withFraction pad.profile console.profile fraction
      adapter.directionScenarios axis source wired direction =
        (Adapter.rawValues axis source wired fraction direction).map fun (boundary, raw) =>
          adapter.scenario (Adapter.axisName axis direction boundary) .axis
            (adapter.restState.withAxis axis raw) := by
  have half := Adapter.isHalfShare_of_admissible admissible
  have narrow := pad.axes_narrow sourceAxis
  obtain ⟨range, stores⟩ := console.axes_storeNarrow wiredAxis
  refine ⟨Response.sample?_eq half narrow stores, fun direction => ⟨Adapter.rawValues?_eq half narrow, ?_⟩⟩
  intro adapter
  have kept : adapter.fraction = fraction :=
    (Adapter.withFraction_fraction_eq_iff pad.profile console.profile).mpr admissible
  rw [adapter.directionScenarios_eq, kept]

/-- The least raw value on an Xbox stick, and the raw values that its left side is tried at. -/
theorem arithmetic_in_range_xbox :
    let source : Calibration := .asymmetric 0x8000 0x7FFF 0x8000
    WirelessPad.xbox.axes.get .lx = some source ∧
    Console.gameCube.axes.get .lx = some Wired.Axes.gameCubeStick ∧
    Adapter.IsAdmissible Response.defaultFraction ∧
    Response.sample? .lx source Wired.Axes.gameCubeStick Response.defaultFraction Signed32.least =
      some ⟨Signed32.least, Signed32.least, -128, 0⟩ ∧
    Adapter.rawValues? .lx source Wired.Axes.gameCubeStick Response.defaultFraction .negative =
      some [(.deadzone, 32326), (.extreme, 0), (.minStep, 31999), (.subStep, 32163)] := by
  intro source
  have sourceAxis : WirelessPad.xbox.axes.get .lx = some source := rfl
  have wiredAxis : Console.gameCube.axes.get .lx = some Wired.Axes.gameCubeStick := rfl
  have admissible : Adapter.IsAdmissible Response.defaultFraction := by decide
  obtain ⟨sampled, tried⟩ := arithmetic_in_range .xbox .gameCube sourceAxis wiredAxis admissible
  refine ⟨sourceAxis, wiredAxis, admissible, ?_, ?_⟩
  · rw [sampled]
    decide
  · rw [(tried .negative).1]
    decide

end PadBench
