import PadBench.Adapter.Scenario
import PadBench.Json.Printing
import PadBench.Record.Json

/-!
The records a conforming adapter prints for a scenario, in the keyed framing.
-/
namespace PadBench

namespace AxisSample

/-- The value of a sample at a stage. -/
def value (sample : AxisSample) : Stage → Int
  | .wireless => sample.wireless
  | .generic => sample.generic
  | .mapped => sample.mapped
  | .wired => sample.wired

end AxisSample

namespace Scenario

/-- The buttons of a stage. The mapped stage passes the generic buttons on. -/
def buttons (scenario : Scenario) : Stage → UInt32
  | .wireless => scenario.input.buttons
  | .generic | .mapped => scenario.expected.generic
  | .wired => scenario.expected.wired

/-- The axes of a stage; one that pad and console do not share is printed as 0. -/
def axisValues (scenario : Scenario) (stage : Stage) : List Int :=
  (scenario.expected.axes.map fun sample => (sample.map (·.value stage)).getD 0).toList

def stageRecord (scenario : Scenario) (stage : Stage) : StageRecord :=
  { reportId := none
    axes := (scenario.axisValues stage).map Int32.ofInt
    buttons := .word (scenario.buttons stage)
    hat := if stage = .wireless then scenario.input.hat else none }

/-- The members that hold the stages. -/
def stageMembers (scenario : Scenario) : Json.Members :=
  Stage.all.map fun stage => (stage.tag, .obj (scenario.stageRecord stage).toMembers)

def expectedJson (scenario : Scenario) : Json :=
  .obj (("scenario", .str scenario.name) :: ("kind", .str scenario.kind.name) :: scenario.stageMembers)

end Scenario

end PadBench
