import PadBench.Record.Expected
import PadBench.Record.Observation
import PadBench.Text.Hexadecimal

/-!
The verdict on a scenario: where the observed stages differ from the expected ones.
-/
namespace PadBench

/-- A part of a stage. -/
inductive StageField where
  | record
  | buttons
  | axis (axis : Axis)
  deriving DecidableEq, Repr

/-- One disagreement. `observed` is absent if the adapter did not report the value. -/
structure Mismatch where
  stage : Stage
  field : StageField
  expected : Int
  observed : Option Int
  deriving DecidableEq, Repr

namespace StageField

def toJson : StageField → Json
  | .record => .str "record"
  | .buttons => .str "buttons"
  | .axis which => .obj [("axis", .str which.name)]

def text : StageField → String
  | .record => "Record"
  | .buttons => "Buttons"
  | .axis which => "Axis(" ++ which.name ++ ")"

end StageField

namespace Mismatch

def toJson (mismatch : Mismatch) : Json :=
  .obj [("stage", .str mismatch.stage.name), ("field", mismatch.field.toJson),
    ("expected", .int mismatch.expected),
    ("observed", (mismatch.observed.map Json.int).getD .null)]

def wordText (value : Int) : String := "0x" ++ Text.upperHex 8 value.toNat

def message (mismatch : Mismatch) : String :=
  let expected := mismatch.expected
  mismatch.stage.tag ++ match mismatch.field, mismatch.observed with
    | .record, _ => ": record missing"
    | .buttons, some observed =>
      " buttons: expected " ++ wordText expected ++ ", observed " ++ wordText observed
    | .axis axis, some observed => " " ++ axis.name ++ s!": expected {expected}, observed {observed}"
    | field, none => " " ++ field.text ++ s!": expected {expected}, not reported"

end Mismatch

namespace Verdict

/-- The bits of a button word that count at a stage. The wireless stage shows the raw word, which may
hold a hat or a status besides the buttons. -/
def significant (mask : UInt32) (stage : Stage) (word : UInt32) : UInt32 :=
  if stage = .wireless then word &&& mask else word

def buttonMismatch? (scenario : Scenario) (mask : UInt32) (stage : Stage) (record : StageRecord) :
    Option Mismatch :=
  let expected := significant mask stage (scenario.buttons stage)
  let observed := significant mask stage record.buttons.primary
  if expected = observed then none
  else some ⟨stage, .buttons, expected.toNat, some observed.toNat⟩

/-- The disagreement on an axis, of which there is none unless the scenario expects a value for it. -/
def axisMismatch? (scenario : Scenario) (stage : Stage) (record : StageRecord) (axis : Axis) :
    Option Mismatch :=
  match scenario.expected.axes.get axis with
  | none => none
  | some sample =>
    let expected := sample.value stage
    let observed := record.axis? axis
    if observed = some expected then none else some ⟨stage, .axis axis, expected, observed⟩

/-- The disagreements at one stage: its buttons, then its axes in order. -/
def stageMismatches (scenario : Scenario) (seen : Observation) (mask : UInt32) (stage : Stage) :
    List Mismatch :=
  match seen.stage stage with
  | none => [⟨stage, .record, 0, none⟩]
  | some record =>
    (buttonMismatch? scenario mask stage record).toList ++
      Axis.all.filterMap (axisMismatch? scenario stage record)

/-- Every disagreement, stage by stage. The adapter passes if there is none. -/
def mismatches (scenario : Scenario) (seen : Observation) (mask : UInt32) : List Mismatch :=
  Stage.all.flatMap (stageMismatches scenario seen mask)

end Verdict

/-- The outcome of one scenario against an adapter. -/
structure ScenarioResult where
  source : String
  destination : String
  scenario : String
  kind : ScenarioKind
  mismatches : List Mismatch
  deriving DecidableEq, Repr

namespace ScenarioResult

def passed (result : ScenarioResult) : Bool := result.mismatches.isEmpty

/-- The line of a results file, stamped with the time it was written. -/
def toJson (result : ScenarioResult) (timestamp : String) : Json :=
  .obj [("timestamp", .str timestamp), ("source", .str result.source),
    ("destination", .str result.destination), ("scenario", .str result.scenario),
    ("kind", .str result.kind.name), ("passed", .bool result.passed),
    ("mismatches", .arr (result.mismatches.map Mismatch.toJson))]

end ScenarioResult

end PadBench
