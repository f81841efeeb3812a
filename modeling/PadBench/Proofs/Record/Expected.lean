import PadBench.Proofs.Bench.Verdict
import PadBench.Proofs.Record.Stages

/-!
What is printed as expected of a scenario is an answer that passes it.

* `ofLine?_expected`: the records on the line;
* `expected_passes`: they are complete, say of each stage what was printed, and disagree with nothing.
-/
namespace PadBench

open Json (member? sortMembers sortedMembers)

namespace Scenario

variable {scenario : Scenario}

/-- The members of the line. -/
def expectedMembers (scenario : Scenario) : Json.Members :=
  ("scenario", .str scenario.name) :: ("kind", .str scenario.kind.name) :: scenario.stageMembers

/-- The value of a stage, as it is read. -/
def stageJson (scenario : Scenario) (which : Stage) : Json :=
  .obj (sortMembers (scenario.stageRecord which).toMembers)

theorem expectedMembers_printable (scenario : Scenario) :
    Json.MembersWhole scenario.expectedMembers ∧
      Json.membersDepth scenario.expectedMembers < Json.deepest ∧
      sortedMembers scenario.expectedMembers =
        [("scenario", .str scenario.name), ("kind", .str scenario.kind.name),
          ("wireless_input", scenario.stageJson .wireless), ("generic_input", scenario.stageJson .generic),
          ("mapped_input", scenario.stageJson .mapped), ("wired_output", scenario.stageJson .wired)] := by
  have stage (which : Stage) := Json.members_of_plain (scenario.stageRecord which).toMembers_plain
  refine ⟨?_, ?_, ?_⟩
  · exact ⟨trivial, trivial, (stage .wireless).1, (stage .generic).1, (stage .mapped).1, (stage .wired).1,
      trivial⟩
  · have wireless := (stage .wireless).2.1
    have generic := (stage .generic).2.1
    have mapped := (stage .mapped).2.1
    have wired := (stage .wired).2.1
    simp only [expectedMembers, stageMembers, Stage.all, List.map_cons, List.map_nil, Json.membersDepth,
      Json.depth, Json.deepest]
    omega
  · simp only [expectedMembers, stageMembers, Stage.all, List.map_cons, List.map_nil, sortedMembers,
      Json.sorted, (stage _).2.2, stageJson, Stage.tag]

/-- The members as they are read, in the order of their keys. -/
def readMembers (scenario : Scenario) : Json.Members :=
  [("generic_input", scenario.stageJson .generic), ("kind", .str scenario.kind.name),
    ("mapped_input", scenario.stageJson .mapped), ("scenario", .str scenario.name),
    ("wired_output", scenario.stageJson .wired), ("wireless_input", scenario.stageJson .wireless)]

theorem object?_expected (scenario : Scenario) :
    Record.object? (JsonLines.line scenario.expectedJson) = some scenario.readMembers := by
  obtain ⟨whole, shallow, members⟩ := scenario.expectedMembers_printable
  have read : Record.object? (JsonLines.line scenario.expectedJson) = _ :=
    Record.object?_line whole shallow
  have ordered : sortMembers (sortedMembers scenario.expectedMembers) = scenario.readMembers := by
    rw [members]
    simp only [sortMembers, List.foldl_cons, List.foldl_nil, Json.insertMember, String.reduceEq,
      String.reduceLT, if_true, if_false, readMembers]
  exact read.trans (congrArg some ordered)

/-- The records on the line of a scenario, in the order of their keys. -/
def records (scenario : Scenario) : List Record :=
  [.stage .generic (scenario.stageRecord .generic), .unknown,
    .stage .mapped (scenario.stageRecord .mapped), .unknown,
    .stage .wired (scenario.stageRecord .wired),
    .stage .wireless (scenario.stageRecord .wireless)]

theorem ofLine?_expected (scenario : Scenario) :
    Record.ofLine? (JsonLines.line scenario.expectedJson) = .ok (some scenario.records) := by
  have kind : Record.ofTagged (Record.tagged "kind" _) = _ :=
    Record.ofTagged_unknown (fun _ => rfl) (.str scenario.kind.name)
  have name : Record.ofTagged (Record.tagged "scenario" _) = _ :=
    Record.ofTagged_unknown (fun _ => rfl) (.str scenario.name)
  have generic := Record.ofTagged_stage .generic (scenario.stageRecord .generic)
  have mapped := Record.ofTagged_stage .mapped (scenario.stageRecord .mapped)
  have wired := Record.ofTagged_stage .wired (scenario.stageRecord .wired)
  have wireless := Record.ofTagged_stage .wireless (scenario.stageRecord .wireless)
  have untagged : member? tagKey scenario.readMembers = none := rfl
  simp only [Stage.tag] at generic mapped wired wireless
  rw [Record.ofLine?, object?_expected]
  simp only [Record.ofObject, untagged]
  simp only [readMembers, List.mapM_cons, List.mapM_nil, stageJson, generic, kind, mapped, name, wired,
    wireless]
  rfl

/-- The values of an axis at the stages, which are 32 bits wide. -/
def HasWords (scenario : Scenario) : Prop :=
  ∀ axis sample, scenario.expected.axes.get axis = some sample → ∀ which : Stage,
    Signed32.least ≤ sample.value which ∧ sample.value which ≤ Signed32.greatest

theorem axis?_stageRecord (words : scenario.HasWords) {axis : Axis} {sample : AxisSample}
    (has : scenario.expected.axes.get axis = some sample) (which : Stage) :
    (scenario.stageRecord which).axis? axis = some (sample.value which) := by
  obtain ⟨low, high⟩ := words axis sample has which
  simp only [Signed32.least, Signed32.greatest] at low high
  have printed : (scenario.stageRecord which).axes[axis.index]? =
      some (Int32.ofInt (sample.value which)) := by
    have value : some (sample.value which) =
        some (((scenario.expected.axes.get axis).map (·.value which)).getD 0) := by rw [has]; rfl
    cases axis <;> exact congrArg (Option.map Int32.ofInt) value.symm
  rw [StageRecord.axis?, printed, Option.map_some, Int32.toInt_ofInt_of_le (by omega) (by omega)]

/-- The verdict on an observation whose stages are the expected ones. -/
theorem mismatches_eq_nil (words : scenario.HasWords) {seen : Observation}
    (stages : ∀ which, seen.stage which = some (scenario.stageRecord which)) (mask : UInt32) :
    Verdict.mismatches scenario seen mask = [] := by
  refine Verdict.mismatches_eq_nil_iff.mpr fun which => ⟨_, stages which, .refl mask which _, ?_⟩
  exact fun _ _ has => axis?_stageRecord words has which

/-- The line that is written of a scenario reads as a complete answer, with each stage as it was written
and two more records of no known kind, and the answer passes under every mask. -/
theorem expected_passes (scenario : Scenario) (mask : UInt32) (words : scenario.HasWords) :
    ∃ records, Record.listOfLine (JsonLines.empty.write scenario.expectedJson).text = .ok records ∧
      (Observation.ofRecords records).isComplete = true ∧
      (∀ which, (Observation.ofRecords records).stage which = some (scenario.stageRecord which)) ∧
      (Observation.ofRecords records).other = [.unknown, .unknown] ∧
      (Observation.ofRecords records).device = none ∧
      (Observation.ofRecords records).calibration = none ∧
      Verdict.mismatches scenario (Observation.ofRecords records) mask = [] := by
  have stages : ∀ which,
      (Observation.ofRecords scenario.records).stage which = some (scenario.stageRecord which) := by
    intro which
    cases which <;> rfl
  refine ⟨scenario.records, ?_, rfl, stages, rfl, rfl, rfl, mismatches_eq_nil words stages mask⟩
  rw [JsonLines.write, JsonLines.empty, String.empty_append, Record.listOfLine, ofLine?_expected]
  rfl

/-- A name that has to be escaped, a hat, and an axis at both ends of its words. -/
def extremeScenario : Scenario where
  name := "a \"b\"\n"
  kind := .axis
  input := ⟨5, some 8, .const none⟩
  expected := ⟨1, 0xFFFFFFFF, (PerAxis.const none).set .ly (some ⟨-2147483648, 2147483647, 0, -1⟩)⟩

theorem expected_passes_extreme : ∃ records,
    Record.listOfLine (JsonLines.empty.write extremeScenario.expectedJson).text = .ok records ∧
      (Observation.ofRecords records).isComplete = true ∧
      Verdict.mismatches extremeScenario (Observation.ofRecords records) 0xF = [] := by
  have words : extremeScenario.HasWords := by
    intro axis sample has which
    cases axis <;> cases has
    cases which <;> decide
  obtain ⟨records, read, complete, _, _, _, _, passes⟩ := expected_passes extremeScenario 0xF words
  exact ⟨records, read, complete, passes⟩

end Scenario

end PadBench
