import PadBench.Adapter.Scenario
import PadBench.Proofs.Adapter.PullBack

/-!
The axis arithmetic with every bound checked.

A function named with a question mark does what the one without does, operation for operation, and gives nothing
as soon as an exact result leaves the signed 32-bit range or a factor is taken over a travel that is not positive.
Operations that saturate, among them the cut of a single to a whole number, cannot leave the range.

* `sample?_eq_some`: what the checked arithmetic gives, the one that wraps gives too, and its sums and differences
  are exact;
* `boundaries?_eq_some`, `rawValues?_eq_some`: so it is with the raw values that an axis is tried at.
-/
namespace PadBench

namespace Signed32

/-- The exact result, if it is in the range. -/
def fit? (value : Int) : Option Int := if least ≤ value ∧ value ≤ greatest then some value else none

def add? (a b : Int) : Option Int := fit? (a + b)
def sub? (a b : Int) : Option Int := fit? (a - b)
def mul? (a b : Int) : Option Int := fit? (a * b)

/-- A result that is in the range is exact, and does not wrap. -/
theorem fit?_eq_some {value result : Int} (found : fit? value = some result) :
    result = value ∧ wrap value = value ∧ least ≤ value ∧ value ≤ greatest := by
  unfold fit? at found
  split at found
  · rename_i inside
    exact ⟨(Option.some.inj found).symm, wrap_of_mem inside.1 inside.2, inside⟩
  · cases found

end Signed32

namespace Response

open Signed32 (add? sub? mul?)

def deadzone? (travel fixed : Int) (fraction : BinaryFloat) : Option Int :=
  add? (share travel fraction) fixed

/-- The factor needs a positive travel past the deadzone. -/
def Regime.onto? (deadzone travel target : Int) : Option Regime := do
  let left ← sub? travel deadzone
  if 0 < left then some ⟨deadzone, .div .single (.ofInt .single target) (.ofInt .single left)⟩ else none

def Regime.applied? (regime : Regime) (magnitude : Int) : Option Int := do
  let past ← sub? magnitude regime.deadzone
  return (BinaryFloat.mul .single (.ofInt .single past) regime.factor).truncate

/-- The pull-back regime or that there is none, with the bounds checked. -/
def pulledBack? (travel target fixed : Int) (fraction : BinaryFloat) : Option (Option Regime) := do
  let hundredfold ← mul? travel pullBackPercent
  let shorter := hundredfold.tdiv 100
  let dead ← deadzone? shorter fixed fraction
  if shorter ≤ dead then return none
  else return some (← Regime.onto? dead shorter target)

/-- The full scale is computed only where it is needed. -/
def regime? (dead magnitude travel target fixed : Int) (fraction : BinaryFloat) : Option Regime :=
  if travel ≤ magnitude then Regime.onto? dead travel target
  else do
    match ← pulledBack? travel target fixed fraction with
    | some short => return short
    | none => Regime.onto? dead travel target

/-- What is stored of a value past its deadzone. -/
def stored? (axis : Axis) (source wired : Calibration) (fraction : BinaryFloat) (dead value : Int) :
    Option Int := do
  let direction ← mul? (axis.sign wired.inverted) value.sign
  let scale ← regime? dead (magnitude value) (source.travel value) (wired.travel direction)
    source.fixedDeadzone fraction
  let past ← scale.applied? (magnitude value)
  let scaled ← mul? direction (max past 0)
  match wired.range with
  | none => return scaled
  | some range => return range.clamp scaled

def sample? (axis : Axis) (source wired : Calibration) (fraction : BinaryFloat) (raw : Int) :
    Option AxisSample := do
  let value := generic axis source raw
  let dead ← deadzone? (source.travel value) source.fixedDeadzone fraction
  if magnitude value ≤ dead ∨ source.travel value ≤ dead then return ⟨raw, value, 0, wired.neutral⟩
  else
    let stored ← stored? axis source wired fraction dead value
    return ⟨raw, value, stored, ← add? stored wired.neutral⟩

section

variable {travel target fixed size : Int} {fraction : BinaryFloat}

theorem deadzone?_eq_some {dead : Int} (found : deadzone? travel fixed fraction = some dead) :
    dead = deadzone travel fixed fraction ∧
      deadzone travel fixed fraction = share travel fraction + fixed := by
  obtain ⟨rfl, exact, -⟩ := Signed32.fit?_eq_some found
  exact ⟨exact.symm, exact⟩

theorem Regime.onto?_eq_some {dead : Int} {regime : Regime} (found : onto? dead travel target = some regime) :
    regime = .onto dead travel target ∧ dead < travel ∧ Signed32.wrap (travel - dead) = travel - dead := by
  obtain ⟨left, fits, positive⟩ := Option.bind_eq_some_iff.mp found
  obtain ⟨rfl, exact, -⟩ := Signed32.fit?_eq_some fits
  split at positive
  · rename_i moves
    refine ⟨?_, Int.lt_of_sub_pos moves, exact⟩
    rw [onto, exact]
    exact (Option.some.inj positive).symm
  · cases positive

theorem Regime.applied?_eq_some {regime : Regime} {past : Int} (found : regime.applied? size = some past) :
    past = regime.apply size ∧ Signed32.wrap (size - regime.deadzone) = size - regime.deadzone := by
  obtain ⟨left, fits, scaled⟩ := Option.bind_eq_some_iff.mp found
  obtain ⟨rfl, exact, -⟩ := Signed32.fit?_eq_some fits
  refine ⟨?_, exact⟩
  rw [apply, exact]
  exact (Option.some.inj scaled).symm

/-- The percentage of a travel is exact, and so is what its deadzone leaves of it. -/
theorem pulledBack?_eq_some {pulled : Option Regime}
    (found : pulledBack? travel target fixed fraction = some pulled) :
    pulled = pullBack? travel target fixed fraction ∧ travel * pullBackPercent ≤ Signed32.greatest ∧
      (pullBackDead travel fixed fraction < pullBackTravel travel →
        Signed32.wrap (pullBackTravel travel - pullBackDead travel fixed fraction) =
          pullBackTravel travel - pullBackDead travel fixed fraction) := by
  obtain ⟨hundredfold, fits, found⟩ := Option.bind_eq_some_iff.mp found
  obtain ⟨rfl, exact, -, narrow⟩ := Signed32.fit?_eq_some fits
  have shorter : (travel * pullBackPercent).tdiv 100 = pullBackTravel travel := by rw [pullBackTravel, exact]
  simp only [shorter] at found
  obtain ⟨dead, summed, found⟩ := Option.bind_eq_some_iff.mp found
  obtain ⟨rfl, -⟩ := deadzone?_eq_some summed
  rw [← pullBackDead] at found
  split at found
  · rename_i still
    have none : pullBack? travel target fixed fraction = none := if_pos still
    exact ⟨none ▸ (Option.some.inj found).symm, narrow, fun moves => absurd still (not_le.mpr moves)⟩
  · rename_i moves
    obtain ⟨short, ratio, found⟩ := Option.bind_eq_some_iff.mp found
    obtain ⟨rfl, moves, exact⟩ := Regime.onto?_eq_some ratio
    have some : pullBack? travel target fixed fraction = some _ := pullBack?_eq_some_iff.mpr ⟨moves, rfl⟩
    exact ⟨some ▸ (Option.some.inj found).symm, narrow, fun _ => exact⟩

/-- The regime is that of a span with a length, which is exact. -/
theorem regime?_eq_some {scale : Regime}
    (found : regime? (deadzone travel fixed fraction) size travel target fixed fraction = some scale) :
    let span := span size travel fixed fraction
    scale = regime size travel target fixed fraction ∧ span.dead < span.travel ∧
      Signed32.wrap (span.travel - span.dead) = span.travel - span.dead ∧
      (size < travel → travel * pullBackPercent ≤ Signed32.greatest) := by
  intro span
  have onto : regime size travel target fixed fraction = .onto span.dead span.travel target :=
    regime_eq_onto size travel target fixed fraction
  rw [onto]
  unfold regime? at found
  split at found
  · rename_i full
    have whole : span = ⟨deadzone travel fixed fraction, travel⟩ := span_of_full full
    obtain ⟨rfl, moves, exact⟩ := Regime.onto?_eq_some found
    rw [whole]
    exact ⟨rfl, moves, exact, fun short => absurd full (not_le.mpr short)⟩
  · rename_i short
    obtain ⟨pulled, fits, found⟩ := Option.bind_eq_some_iff.mp found
    obtain ⟨rfl, narrow, exact⟩ := pulledBack?_eq_some fits
    by_cases moves : pullBackDead travel fixed fraction < pullBackTravel travel
    · have part : span = ⟨pullBackDead travel fixed fraction, pullBackTravel travel⟩ :=
        span_of_short (not_le.mp short) moves
      rw [pullBack?_eq_some_iff.mpr ⟨moves, rfl⟩] at found
      rw [part]
      exact ⟨(Option.some.inj found).symm, moves, exact moves, fun _ => narrow⟩
    · have whole : span = ⟨deadzone travel fixed fraction, travel⟩ := if_pos (.inr (not_lt.mp moves))
      have none : pullBack? travel target fixed fraction = none := if_pos (not_lt.mp moves)
      rw [none] at found
      obtain ⟨rfl, moves, exact⟩ := Regime.onto?_eq_some found
      rw [whole]
      exact ⟨rfl, moves, exact, fun _ => narrow⟩

end

/-- The sums and differences on the way from a generic value to what is wired are exact. -/
structure IsInRange (axis : Axis) (source wired : Calibration) (fraction : BinaryFloat) (value : Int) : Prop where
  dead : deadzone (source.travel value) source.fixedDeadzone fraction =
    share (source.travel value) fraction + source.fixedDeadzone
  carries : isDead source fraction value = false →
    (span (magnitude value) (source.travel value) source.fixedDeadzone fraction).Carries (magnitude value)
  narrow : isDead source fraction value = false → magnitude value < source.travel value →
    source.travel value * pullBackPercent ≤ Signed32.greatest
  wired : isDead source fraction value = false →
    Signed32.wrap (mapped axis source wired fraction value + wired.neutral) =
      mapped axis source wired fraction value + wired.neutral

section

variable {axis : Axis} {source wired : Calibration} {fraction : BinaryFloat}

theorem stored?_eq_some {value stored : Int} (live : isDead source fraction value = false)
    (found : stored? axis source wired fraction
      (deadzone (source.travel value) source.fixedDeadzone fraction) value = some stored) :
    stored = mapped axis source wired fraction value ∧
      (span (magnitude value) (source.travel value) source.fixedDeadzone fraction).Carries (magnitude value) ∧
      (magnitude value < source.travel value → source.travel value * pullBackPercent ≤ Signed32.greatest) := by
  obtain ⟨direction, side, found⟩ := Option.bind_eq_some_iff.mp found
  obtain ⟨rfl, -⟩ := Signed32.fit?_eq_some side
  obtain ⟨scale, ratio, found⟩ := Option.bind_eq_some_iff.mp found
  obtain ⟨rfl, moves, length, narrow⟩ := regime?_eq_some ratio
  obtain ⟨past, product, found⟩ := Option.bind_eq_some_iff.mp found
  obtain ⟨rfl, left⟩ := Regime.applied?_eq_some product
  obtain ⟨scaled, turned, found⟩ := Option.bind_eq_some_iff.mp found
  obtain ⟨rfl, -⟩ := Signed32.fit?_eq_some turned
  rw [regime_eq_onto] at left
  refine ⟨?_, ⟨moves, length, left⟩, narrow⟩
  simp only [mapped, live, Bool.false_eq_true, if_false]
  cases ranged : wired.range <;> rw [ranged] at found <;> exact (Option.some.inj found).symm

/-- What the checked arithmetic gives for a raw value is its sample, and nothing wraps on the way to it. -/
theorem sample?_eq_some {raw : Int} {found : AxisSample}
    (checked : sample? axis source wired fraction raw = some found) :
    found = sample axis source wired fraction raw ∧
      IsInRange axis source wired fraction (generic axis source raw) := by
  obtain ⟨dead, summed, checked⟩ := Option.bind_eq_some_iff.mp checked
  obtain ⟨rfl, exact⟩ := deadzone?_eq_some summed
  split at checked
  · rename_i still
    have dead : isDead source fraction (generic axis source raw) = true := decide_eq_true still
    have alive (live : isDead source fraction (generic axis source raw) = false) : False :=
      Bool.false_ne_true (live.symm.trans dead)
    refine ⟨?_, exact, fun live => (alive live).elim, fun live => (alive live).elim, fun live => (alive live).elim⟩
    rw [sample, mapped, wiredValue, if_pos dead, if_pos dead]
    exact (Option.some.inj checked).symm
  · rename_i moves
    have live : isDead source fraction (generic axis source raw) = false := decide_eq_false moves
    obtain ⟨stored, scaled, checked⟩ := Option.bind_eq_some_iff.mp checked
    obtain ⟨rfl, carries, narrow⟩ := stored?_eq_some live scaled
    obtain ⟨wire, summed, checked⟩ := Option.bind_eq_some_iff.mp checked
    obtain ⟨rfl, whole, -⟩ := Signed32.fit?_eq_some summed
    refine ⟨?_, exact, fun _ => carries, fun _ => narrow, fun _ => whole⟩
    simp only [sample, wiredValue, live, Bool.false_eq_true, if_false, whole]
    exact (Option.some.inj checked).symm

theorem isInRange_of_isSome {raw : Int} (checked : (sample? axis source wired fraction raw).isSome) :
    IsInRange axis source wired fraction (generic axis source raw) := by
  obtain ⟨found, checked⟩ := Option.isSome_iff_exists.mp checked
  exact (sample?_eq_some checked).2

end

end Response

namespace Adapter

open Signed32 (add? mul?)

def boundaries? (axis : Axis) (source wired : Calibration) (fraction : BinaryFloat)
    (direction : Direction) : Option (List (Boundary × Int)) := do
  let travel := source.travel direction.sign
  if travel ≤ 0 then return []
  else
    let dead ← Response.deadzone? travel source.fixedDeadzone fraction
    let side ← mul? (axis.sign wired.inverted) direction.sign
    let steps := StepSizes.ofTravels travel (wired.travel side)
    if steps.isResolvable then
      let whole ← add? dead steps.one
      if whole < travel then
        return [(.deadzone, dead), (.extreme, travel), (.minStep, whole), (.subStep, ← add? dead steps.half)]
      else return [(.deadzone, dead), (.extreme, travel)]
    else return [(.deadzone, dead), (.extreme, travel)]

/-- The raw values that a side of an axis is tried at. -/
def rawValues (axis : Axis) (source wired : Calibration) (fraction : BinaryFloat) (direction : Direction) :
    List (Boundary × Int) :=
  (boundaries axis source wired fraction direction).map fun (boundary, magnitude) =>
    (boundary, rawValue axis source direction magnitude)

def rawValues? (axis : Axis) (source wired : Calibration) (fraction : BinaryFloat) (direction : Direction) :
    Option (List (Boundary × Int)) := do
  let toward ← mul? (axis.sign source.inverted) direction.sign
  let tried ← boundaries? axis source wired fraction direction
  tried.mapM fun (boundary, magnitude) => do
    return (boundary, ← add? source.neutral (← mul? toward magnitude))

section

variable {axis : Axis} {source wired : Calibration} {fraction : BinaryFloat} {direction : Direction}

/-- The sums on the way to the displacements that a side is tried at are exact. -/
structure IsSideInRange (axis : Axis) (source wired : Calibration) (fraction : BinaryFloat)
    (direction : Direction) : Prop where
  dead : Response.deadzone (source.travel direction.sign) source.fixedDeadzone fraction =
    Response.share (source.travel direction.sign) fraction + source.fixedDeadzone
  whole :
    let dead := Response.deadzone (source.travel direction.sign) source.fixedDeadzone fraction
    let steps := StepSizes.ofTravels (source.travel direction.sign)
      (wired.travel (axis.sign wired.inverted * direction.sign))
    steps.isResolvable = true → Signed32.wrap (dead + steps.one) = dead + steps.one ∧
      (dead + steps.one < source.travel direction.sign → Signed32.wrap (dead + steps.half) = dead + steps.half)

theorem boundaries?_eq_some {tried : List (Boundary × Int)}
    (checked : boundaries? axis source wired fraction direction = some tried) :
    tried = boundaries axis source wired fraction direction ∧
      (0 < source.travel direction.sign → IsSideInRange axis source wired fraction direction) := by
  simp only [boundaries?] at checked
  split at checked
  · rename_i still
    have none : boundaries axis source wired fraction direction = [] := if_pos still
    exact ⟨none ▸ (Option.some.inj checked).symm, fun travels => absurd still (not_le.mpr travels)⟩
  · rename_i travels
    obtain ⟨dead, summed, checked⟩ := Option.bind_eq_some_iff.mp checked
    obtain ⟨rfl, exact⟩ := Response.deadzone?_eq_some summed
    obtain ⟨side, turned, checked⟩ := Option.bind_eq_some_iff.mp checked
    obtain ⟨rfl, -⟩ := Signed32.fit?_eq_some turned
    simp only [boundaries, if_neg travels]
    split at checked
    · rename_i resolvable
      obtain ⟨whole, summed, checked⟩ := Option.bind_eq_some_iff.mp checked
      obtain ⟨rfl, one, -⟩ := Signed32.fit?_eq_some summed
      rw [one, resolvable, Bool.true_and]
      split at checked
      · rename_i short
        obtain ⟨part, summed, checked⟩ := Option.bind_eq_some_iff.mp checked
        obtain ⟨rfl, half, -⟩ := Signed32.fit?_eq_some summed
        rw [if_pos (decide_eq_true short), half]
        exact ⟨(Option.some.inj checked).symm, fun _ => ⟨exact, fun _ => ⟨one, fun _ => half⟩⟩⟩
      · rename_i far
        rw [if_neg (fun short => far (of_decide_eq_true short))]
        exact ⟨(Option.some.inj checked).symm, fun _ => ⟨exact, fun _ => ⟨one, fun short => absurd short far⟩⟩⟩
    · rename_i coarse
      rw [if_neg (fun fit => coarse (Bool.and_eq_true_iff.mp fit).1)]
      exact ⟨(Option.some.inj checked).symm, fun _ => ⟨exact, fun resolvable => absurd resolvable coarse⟩⟩

/-- Steps that give what a function does make the list that the function makes. -/
theorem eq_map_of_mapM {α β : Type} {items : List α} {step : α → Option β} {value : α → β} {results : List β}
    (agrees : ∀ item result, step item = some result → result = value item)
    (found : items.mapM step = some results) :
    results = items.map value ∧ ∀ item ∈ items, step item = some (value item) := by
  induction items generalizing results with
  | nil => exact ⟨(Option.some.inj found).symm, nofun⟩
  | cons item items ih =>
    rw [List.mapM_cons] at found
    obtain ⟨result, here, found⟩ := Option.bind_eq_some_iff.mp found
    obtain ⟨rest, there, found⟩ := Option.bind_eq_some_iff.mp found
    obtain rfl := agrees item result here
    obtain ⟨rfl, all⟩ := ih there
    exact ⟨(Option.some.inj found).symm, List.forall_mem_cons.mpr ⟨here, all⟩⟩

/-- The raw values that the checked arithmetic gives are those that the side is tried at, and nothing wraps on the
way to them. -/
theorem rawValues?_eq_some {values : List (Boundary × Int)}
    (checked : rawValues? axis source wired fraction direction = some values) :
    values = rawValues axis source wired fraction direction ∧
      (0 < source.travel direction.sign → IsSideInRange axis source wired fraction direction) ∧
      ∀ boundary magnitude, (boundary, magnitude) ∈ boundaries axis source wired fraction direction →
        rawValue axis source direction magnitude =
          source.neutral + axis.sign source.inverted * direction.sign * magnitude := by
  obtain ⟨toward, turned, checked⟩ := Option.bind_eq_some_iff.mp checked
  obtain ⟨rfl, -⟩ := Signed32.fit?_eq_some turned
  obtain ⟨tried, bounded, checked⟩ := Option.bind_eq_some_iff.mp checked
  obtain ⟨rfl, side⟩ := boundaries?_eq_some bounded
  have placed (boundary : Boundary) (magnitude : Int) (result : Boundary × Int)
      (found : (do
        return (boundary, ← add? source.neutral
          (← mul? (axis.sign source.inverted * direction.sign) magnitude)) : Option (Boundary × Int)) =
        some result) :
      result = (boundary, rawValue axis source direction magnitude) ∧
        rawValue axis source direction magnitude =
          source.neutral + axis.sign source.inverted * direction.sign * magnitude := by
    obtain ⟨shift, product, found⟩ := Option.bind_eq_some_iff.mp found
    obtain ⟨rfl, -⟩ := Signed32.fit?_eq_some product
    obtain ⟨raw, summed, found⟩ := Option.bind_eq_some_iff.mp found
    obtain ⟨rfl, exact, -⟩ := Signed32.fit?_eq_some summed
    rw [rawValue, exact]
    exact ⟨(Option.some.inj found).symm, rfl⟩
  obtain ⟨rfl, each⟩ := eq_map_of_mapM (fun item result found => (placed item.1 item.2 result found).1) checked
  exact ⟨rfl, side, fun boundary magnitude member =>
    (placed boundary magnitude _ (each (boundary, magnitude) member)).2⟩

end

/-- The scenarios of a side are those of its raw values. -/
theorem directionScenarios_eq (adapter : Adapter) (axis : Axis) (source wired : Calibration)
    (direction : Direction) :
    adapter.directionScenarios axis source wired direction =
      (rawValues axis source wired adapter.fraction direction).map fun (boundary, raw) =>
        adapter.scenario (axisName axis direction boundary) .axis (adapter.restState.withAxis axis raw) := by
  rw [rawValues, List.map_map]
  rfl

end Adapter

end PadBench
