import PadBench.Adapter.Model

/-!
The scenarios that exercise an adapter: single reports, each with the stages it must produce.

They cover every table entry alone and all together, every hat code, and for each axis that pad and
console share the boundary displacements of both directions.
-/
namespace PadBench

inductive ScenarioKind where
  | buttons | hat | axis
  deriving DecidableEq, Repr

namespace ScenarioKind

def name : ScenarioKind → String
  | .buttons => "buttons"
  | .hat => "hat"
  | .axis => "axis"

end ScenarioKind

structure Scenario where
  name : String
  kind : ScenarioKind
  input : PadState
  expected : Prediction
  deriving DecidableEq, Repr

/-- The side of neutral that a generic value of the direction is on. -/
inductive Direction where
  | positive | negative
  deriving DecidableEq, Repr

namespace Direction

def all : List Direction := [.positive, .negative]

def name : Direction → String
  | .positive => "positive"
  | .negative => "negative"

def sign : Direction → Int
  | .positive => 1
  | .negative => -1

end Direction

/-- The displacements at which an axis is tried. -/
inductive Boundary where
  /-- The last one that is dead. -/
  | deadzone
  /-- The full travel. -/
  | extreme
  /-- The least that moves the console's axis. -/
  | minStep
  /-- One past the deadzone that must not. -/
  | subStep
  deriving DecidableEq, Repr

namespace Boundary

def name : Boundary → String
  | .deadzone => "deadzone"
  | .extreme => "extreme"
  | .minStep => "min_step"
  | .subStep => "sub_step"

end Boundary

namespace Adapter

/-- A scenario that expects what the adapter's model predicts. -/
def scenario (adapter : Adapter) (name : String) (kind : ScenarioKind) (input : PadState) : Scenario :=
  ⟨name, kind, input, adapter.predict input⟩

def restState (adapter : Adapter) : PadState := .neutral adapter.source.axes

/-- No button, each entry of the table alone, every mapped bit at once. -/
def buttonScenarios (adapter : Adapter) : List Scenario :=
  let press (label : String) (word : UInt32) :=
    adapter.scenario ("buttons/" ++ label) .buttons (adapter.restState.withButtons word)
  let table := adapter.source.buttons
  press "none" 0 :: table.active.map (fun button => press button.name (table.entry button)) ++
    [press "all" table.union]

/-- Every code, for a pad with a hat. -/
def hatScenarios (adapter : Adapter) : List Scenario :=
  match adapter.source.hat with
  | none => []
  | some _ => (List.range Hat.codes).map fun code =>
    adapter.scenario s!"hat/{code}" .hat (adapter.restState.withHat (UInt8.ofNat code))

/-- The displacements tried on one side of an axis. The steps are left out where they coincide or
would not stay short of the full travel. -/
def boundaries (axis : Axis) (source wired : Calibration) (fraction : BinaryFloat)
    (direction : Direction) : List (Boundary × Int) :=
  let travel := source.travel direction.sign
  let dead := Response.deadzone travel source.fixedDeadzone fraction
  let steps := StepSizes.ofTravels travel (wired.travel (axis.sign wired.inverted * direction.sign))
  let whole := Signed32.wrap (dead + steps.one)
  let half := Signed32.wrap (dead + steps.half)
  if travel ≤ 0 then []
  else
    (.deadzone, dead) :: (.extreme, travel) ::
      if steps.isResolvable && decide (whole < travel) then [(.minStep, whole), (.subStep, half)] else []

def axisName (axis : Axis) (direction : Direction) (boundary : Boundary) : String :=
  "axis/" ++ axis.name ++ "/" ++ direction.name ++ "/" ++ boundary.name

/-- The raw value of an axis that is displaced by `magnitude`, to the side whose generic values have the
direction. -/
def rawValue (axis : Axis) (source : Calibration) (direction : Direction) (magnitude : Int) : Int :=
  Signed32.wrap (source.neutral + axis.sign source.inverted * direction.sign * magnitude)

/-- The axis displaced by `magnitude`. -/
def displaced (adapter : Adapter) (axis : Axis) (source : Calibration) (direction : Direction)
    (magnitude : Int) : PadState :=
  adapter.restState.withAxis axis (rawValue axis source direction magnitude)

def directionScenarios (adapter : Adapter) (axis : Axis) (source wired : Calibration)
    (direction : Direction) : List Scenario :=
  (boundaries axis source wired adapter.fraction direction).map fun (boundary, magnitude) =>
    adapter.scenario (axisName axis direction boundary) .axis
      (adapter.displaced axis source direction magnitude)

/-- The scenarios of one axis, if pad and console both have it. -/
def oneAxisScenarios (adapter : Adapter) (axis : Axis) : List Scenario :=
  match adapter.source.axes.get axis, adapter.wired.axes.get axis with
  | some source, some wired =>
    adapter.scenario ("axis/" ++ axis.name ++ "/zero") .axis adapter.restState ::
      Direction.all.flatMap (adapter.directionScenarios axis source wired)
  | _, _ => []

def axisScenarios (adapter : Adapter) : List Scenario := Axis.all.flatMap adapter.oneAxisScenarios

/-- Every scenario, in a fixed order. -/
def scenarios (adapter : Adapter) : List Scenario :=
  adapter.buttonScenarios ++ adapter.hatScenarios ++ adapter.axisScenarios

end Adapter

end PadBench
