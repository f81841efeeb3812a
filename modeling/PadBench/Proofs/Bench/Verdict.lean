import PadBench.Bench.Verdict

/-!
What a verdict lists: every disagreement of the observed stages with a scenario, once and in order.

* `mem_mismatches_iff`: what is listed is what disagrees;
* `mismatches_inOrder`: stage after stage, and in a stage the buttons before the axes;
* `mismatches_eq_nil_iff`: nothing is listed exactly if every stage was seen and agrees;
* `mismatches_congr`: nothing but the expected stages and what they are compared with counts;
* `disagreements_listed`: all of this together.
-/
namespace PadBench

/-- The stages in the order a report passes them. -/
def Stage.position : Stage → Nat
  | .wireless => 0
  | .generic => 1
  | .mapped => 2
  | .wired => 3

/-- The parts of a stage in the order they are compared. -/
def StageField.position : StageField → Nat
  | .record => 0
  | .buttons => 1
  | .axis which => 2 + which.index

/-- An earlier stage, or an earlier part of the same stage. -/
def Mismatch.Precedes (a b : Mismatch) : Prop :=
  a.stage.position < b.stage.position ∨ a.stage = b.stage ∧ a.field.position < b.field.position

namespace Verdict

/-- The words hold the same buttons of a stage, which at the wireless stage are the bits of the mask. -/
def SameButtons (mask : UInt32) : Stage → UInt32 → UInt32 → Prop
  | .wireless, a, b => a &&& mask = b &&& mask
  | _, a, b => a = b

/-- What there is to object to in an observation, with the expected and the observed value. -/
inductive Disagrees (scenario : Scenario) (seen : Observation) (mask : UInt32) : Mismatch → Prop
  | unseen {stage : Stage} (missing : seen.stage stage = none) :
      Disagrees scenario seen mask ⟨stage, .record, 0, none⟩
  | wirelessButtons {record : StageRecord} (shown : seen.stage .wireless = some record)
      (differ : scenario.input.buttons &&& mask ≠ record.buttons.primary &&& mask) :
      Disagrees scenario seen mask ⟨.wireless, .buttons, (scenario.input.buttons &&& mask).toNat,
        some (record.buttons.primary &&& mask).toNat⟩
  | buttons {stage : Stage} {record : StageRecord} (later : stage ≠ .wireless)
      (shown : seen.stage stage = some record) (differ : scenario.buttons stage ≠ record.buttons.primary) :
      Disagrees scenario seen mask
        ⟨stage, .buttons, (scenario.buttons stage).toNat, some record.buttons.primary.toNat⟩
  | axis {stage : Stage} {record : StageRecord} {axis : Axis} {sample : AxisSample}
      (shown : seen.stage stage = some record) (expected : scenario.expected.axes.get axis = some sample)
      (differ : record.axis? axis ≠ some (sample.value stage)) :
      Disagrees scenario seen mask ⟨stage, .axis axis, sample.value stage, record.axis? axis⟩

/-- A record of a stage shows what the scenario expects of it. -/
structure Agrees (scenario : Scenario) (mask : UInt32) (stage : Stage) (record : StageRecord) : Prop where
  buttons : SameButtons mask stage (scenario.buttons stage) record.buttons.primary
  axes : ∀ axis sample, scenario.expected.axes.get axis = some sample →
    record.axis? axis = some (sample.value stage)

/-- Two records of a stage differ at most in their hat, their number, the buttons past the first word or,
at the wireless stage, outside the mask, and the axes of which the scenario expects nothing. -/
structure Alike (scenario : Scenario) (mask : UInt32) (stage : Stage) (a b : StageRecord) : Prop where
  buttons : SameButtons mask stage a.buttons.primary b.buttons.primary
  axes : ∀ axis, (scenario.expected.axes.get axis).isSome → a.axis? axis = b.axis? axis

variable {scenario other : Scenario} {seen again : Observation} {mask : UInt32} {stage : Stage}
  {record : StageRecord} {mismatch : Mismatch}

theorem SameButtons.refl (mask : UInt32) (stage : Stage) (word : UInt32) :
    SameButtons mask stage word word := by
  cases stage <;> rfl

theorem sameButtons_iff (stage : Stage) (a b : UInt32) :
    SameButtons mask stage a b ↔ significant mask stage a = significant mask stage b := by
  cases stage <;> rfl

theorem significant_of_ne (later : stage ≠ .wireless) (word : UInt32) : significant mask stage word = word :=
  if_neg later

theorem buttonMismatch?_eq_none_iff :
    buttonMismatch? scenario mask stage record = none ↔
      SameButtons mask stage (scenario.buttons stage) record.buttons.primary := by
  simp only [buttonMismatch?, sameButtons_iff, ite_eq_left_iff, reduceCtorEq, imp_false,
    Decidable.not_not]

theorem buttonMismatch?_eq_some_iff :
    buttonMismatch? scenario mask stage record = some mismatch ↔
      ¬SameButtons mask stage (scenario.buttons stage) record.buttons.primary ∧
        mismatch = ⟨stage, .buttons, (significant mask stage (scenario.buttons stage)).toNat,
          some (significant mask stage record.buttons.primary).toNat⟩ := by
  rw [eq_comm (a := mismatch)]
  simp only [buttonMismatch?, sameButtons_iff, Option.ite_none_left_eq_some, Option.some.injEq]

theorem axisMismatch?_eq_none_iff {axis : Axis} :
    axisMismatch? scenario stage record axis = none ↔
      ∀ sample, scenario.expected.axes.get axis = some sample →
        record.axis? axis = some (sample.value stage) := by
  rw [axisMismatch?]
  cases scenario.expected.axes.get axis with
  | none => exact iff_of_true rfl nofun
  | some sample =>
    simp only [Option.some.injEq, forall_eq', ite_eq_left_iff, reduceCtorEq, imp_false,
      Decidable.not_not]

theorem axisMismatch?_eq_some_iff {axis : Axis} :
    axisMismatch? scenario stage record axis = some mismatch ↔
      ∃ sample, scenario.expected.axes.get axis = some sample ∧
        record.axis? axis ≠ some (sample.value stage) ∧
        mismatch = ⟨stage, .axis axis, sample.value stage, record.axis? axis⟩ := by
  rw [axisMismatch?]
  cases scenario.expected.axes.get axis with
  | none => exact iff_of_false nofun nofun
  | some sample =>
    simp only [Option.some.injEq, exists_eq_left']
    rw [eq_comm (a := mismatch)]
    simp only [Option.ite_none_left_eq_some, Option.some.injEq, ne_eq]

/-- A stage that was seen disagrees in its buttons or in an axis. -/
theorem disagrees_iff_of_shown (shown : seen.stage stage = some record) :
    mismatch.stage = stage ∧ Disagrees scenario seen mask mismatch ↔
      buttonMismatch? scenario mask stage record = some mismatch ∨
        ∃ axis, axisMismatch? scenario stage record axis = some mismatch := by
  simp only [buttonMismatch?_eq_some_iff, axisMismatch?_eq_some_iff]
  constructor
  · rintro ⟨rfl, disagrees⟩
    cases disagrees with
    | unseen missing => cases shown.symm.trans missing
    | wirelessButtons there differ =>
      cases shown.symm.trans there
      exact .inl ⟨differ, rfl⟩
    | buttons later there differ =>
      cases shown.symm.trans there
      rw [sameButtons_iff, significant_of_ne later, significant_of_ne later]
      exact .inl ⟨differ, rfl⟩
    | axis there expected differ =>
      cases shown.symm.trans there
      exact .inr ⟨_, _, expected, differ, rfl⟩
  · rintro (⟨differ, rfl⟩ | ⟨axis, sample, expected, differ, rfl⟩)
    · refine ⟨rfl, ?_⟩
      by_cases first : stage = .wireless
      · subst first
        exact .wirelessButtons shown differ
      · rw [sameButtons_iff, significant_of_ne first, significant_of_ne first] at differ
        rw [significant_of_ne first, significant_of_ne first]
        exact .buttons first shown differ
    · exact ⟨rfl, .axis shown expected differ⟩

/-- What is listed of a stage disagrees there, and what disagrees there is listed. -/
theorem mem_stageMismatches_iff :
    mismatch ∈ stageMismatches scenario seen mask stage ↔
      mismatch.stage = stage ∧ Disagrees scenario seen mask mismatch := by
  rw [stageMismatches]
  cases shown : seen.stage stage with
  | none =>
    rw [List.mem_singleton]
    constructor
    · rintro rfl
      exact ⟨rfl, .unseen shown⟩
    · rintro ⟨rfl, disagrees⟩
      cases disagrees with
      | unseen => rfl
      | wirelessButtons there | buttons _ there | axis there => cases shown.symm.trans there
  | some record =>
    rw [disagrees_iff_of_shown shown]
    simp only [List.mem_append, Option.mem_toList, List.mem_filterMap, Axis.mem_all, true_and]

theorem mem_mismatches_iff :
    mismatch ∈ mismatches scenario seen mask ↔ Disagrees scenario seen mask mismatch := by
  simp only [mismatches, List.mem_flatMap, mem_stageMismatches_iff, Stage.mem_all, true_and,
    exists_eq_left']

theorem stageMismatches_inOrder :
    (stageMismatches scenario seen mask stage).Pairwise Mismatch.Precedes := by
  rw [stageMismatches]
  split
  · exact List.pairwise_singleton _ _
  · rename_i record shown
    have axes : Axis.all.Pairwise fun a b => a.index < b.index := by decide
    refine List.pairwise_append.mpr ⟨?_, ?_, ?_⟩
    · cases buttonMismatch? scenario mask stage record with
      | none => exact .nil
      | some mismatch => exact List.pairwise_singleton _ _
    · refine axes.filterMap _ fun a b before first found second found' => ?_
      obtain ⟨_, -, -, rfl⟩ := axisMismatch?_eq_some_iff.mp found
      obtain ⟨_, -, -, rfl⟩ := axisMismatch?_eq_some_iff.mp found'
      exact .inr ⟨rfl, Nat.add_lt_add_left before 2⟩
    · intro first found second found'
      obtain ⟨-, rfl⟩ := buttonMismatch?_eq_some_iff.mp (Option.mem_toList.mp found)
      obtain ⟨axis, -, found'⟩ := List.mem_filterMap.mp found'
      obtain ⟨_, -, -, rfl⟩ := axisMismatch?_eq_some_iff.mp found'
      exact .inr ⟨rfl, Nat.lt_add_right axis.index Nat.one_lt_two⟩

theorem mismatches_inOrder : (mismatches scenario seen mask).Pairwise Mismatch.Precedes := by
  have stages : Stage.all.Pairwise fun a b => a.position < b.position := by decide
  refine List.pairwise_flatMap.mpr ⟨fun _ _ => stageMismatches_inOrder, stages.imp ?_⟩
  intro a b before first found second found'
  obtain ⟨rfl, -⟩ := mem_stageMismatches_iff.mp found
  obtain ⟨rfl, -⟩ := mem_stageMismatches_iff.mp found'
  exact .inl before

theorem stageMismatches_eq_nil_iff :
    stageMismatches scenario seen mask stage = [] ↔
      ∃ record, seen.stage stage = some record ∧ Agrees scenario mask stage record := by
  rw [stageMismatches]
  cases shown : seen.stage stage with
  | none => exact iff_of_false nofun nofun
  | some record =>
    simp only [List.append_eq_nil_iff, Option.toList_eq_nil_iff, buttonMismatch?_eq_none_iff,
      List.filterMap_eq_nil_iff, axisMismatch?_eq_none_iff, Axis.mem_all, forall_const,
      Option.some.injEq, exists_eq_left']
    exact ⟨fun agrees => ⟨agrees.1, agrees.2⟩, fun agrees => ⟨agrees.buttons, agrees.axes⟩⟩

theorem mismatches_eq_nil_iff :
    mismatches scenario seen mask = [] ↔
      ∀ stage, ∃ record, seen.stage stage = some record ∧ Agrees scenario mask stage record := by
  simp only [mismatches, List.flatMap_eq_nil_iff, stageMismatches_eq_nil_iff, Stage.mem_all,
    forall_const]

/-- Two records of a stage that are alike disagree with a scenario in the same way. -/
theorem stageMismatches_congr (expected : other.expected = scenario.expected)
    (buttons : SameButtons mask stage (other.buttons stage) (scenario.buttons stage))
    (alike : Option.Rel (Alike scenario mask stage) (seen.stage stage) (again.stage stage)) :
    stageMismatches other again mask stage = stageMismatches scenario seen mask stage := by
  rw [stageMismatches, stageMismatches]
  generalize seen.stage stage = shown at alike ⊢
  generalize again.stage stage = shown' at alike ⊢
  cases alike with
  | none => rfl
  | @some a b alike =>
    have words := (sameButtons_iff stage _ _).mp buttons
    have shown := (sameButtons_iff stage _ _).mp alike.buttons
    have first : buttonMismatch? other mask stage b = buttonMismatch? scenario mask stage a := by
      rw [buttonMismatch?, buttonMismatch?, words, shown]
    have rest (axis : Axis) : axisMismatch? other stage b axis = axisMismatch? scenario stage a axis := by
      rw [axisMismatch?, axisMismatch?, expected]
      cases has : scenario.expected.axes.get axis with
      | none => rfl
      | some sample => rw [alike.axes axis (by rw [has]; rfl)]
    simp only [first, funext rest]

/-- Of the scenario, only what it expects and the buttons under the mask count. -/
theorem mismatches_congr (expected : other.expected = scenario.expected)
    (buttons : other.input.buttons &&& mask = scenario.input.buttons &&& mask)
    (alike : ∀ stage, Option.Rel (Alike scenario mask stage) (seen.stage stage) (again.stage stage)) :
    mismatches other again mask = mismatches scenario seen mask := by
  have same (stage : Stage) : SameButtons mask stage (other.buttons stage) (scenario.buttons stage) := by
    cases stage with
    | wireless => exact buttons
    | generic | mapped => exact congrArg Prediction.generic expected
    | wired => exact congrArg Prediction.wired expected
  have stages : stageMismatches other again mask = stageMismatches scenario seen mask :=
    funext fun stage => stageMismatches_congr expected (same stage) (alike stage)
  rw [mismatches, mismatches, stages]

/-- The list holds exactly what disagrees, each stage after those before it and each part of a stage after
those before it, so nothing twice. It is empty exactly if every stage was seen and agrees, and it is the same
for all scenarios and answers that agree on what is expected, on the buttons under the mask, on the stages
seen, and in each of those on its first word of buttons and on the axes of which something is expected. -/
theorem disagreements_listed (scenario : Scenario) (seen : Observation) (mask : UInt32) :
    (∀ mismatch, mismatch ∈ mismatches scenario seen mask ↔ Disagrees scenario seen mask mismatch) ∧
    (mismatches scenario seen mask).Pairwise Mismatch.Precedes ∧
    (mismatches scenario seen mask = [] ↔
      ∀ stage, ∃ record, seen.stage stage = some record ∧ Agrees scenario mask stage record) ∧
    ∀ (other : Scenario) (again : Observation), other.expected = scenario.expected →
      other.input.buttons &&& mask = scenario.input.buttons &&& mask →
      (∀ stage, Option.Rel (Alike scenario mask stage) (seen.stage stage) (again.stage stage)) →
      mismatches other again mask = mismatches scenario seen mask :=
  ⟨fun _ => mem_mismatches_iff, mismatches_inOrder, mismatches_eq_nil_iff,
    fun _ _ expected buttons alike => mismatches_congr expected buttons alike⟩

/-- A scenario that expects something of one axis. -/
def stickScenario (input : PadState) : Scenario where
  name := "axis/LX/positive/extreme"
  kind := .axis
  input := input
  expected := ⟨0x10, 0xFFFE, (PerAxis.const none).set .lx (some ⟨0x90, 16, 12, 140⟩)⟩

/-- An answer that misses a stage and shows another value at the wire, and of all else as much as wanted. -/
def stickAnswer (reportId : Option Int64) (hat : Option UInt8) (further : List Int32) (raw : UInt32)
    (words : List UInt32) (device : Option DeviceInfo) : Observation where
  wireless := some ⟨reportId, 0x90 :: further, .words (raw :: words), hat⟩
  generic := some ⟨none, 16 :: further, .words (0x10 :: words), hat⟩
  mapped := none
  wired := some ⟨none, 141 :: further, .words (0xFFFE :: words), hat⟩
  device := device
  calibration := none
  other := []

theorem disagreements_listed_stick :
    let scenario := stickScenario ⟨0x5, some 3, .const none⟩
    let other := stickScenario ⟨0x1205, none, .const none⟩
    let seen := stickAnswer (some 1) (some 8) [7, 7] 0x2006 [1] (some ⟨0, 4, 0, none⟩)
    let again := stickAnswer none none [] 0x0006 [] none
    mismatches other again 0xFF = mismatches scenario seen 0xFF ∧
      mismatches scenario seen 0xFF = [⟨.wireless, .buttons, 5, some 6⟩, ⟨.mapped, .record, 0, none⟩,
        ⟨.wired, .axis .lx, 140, some 141⟩] := by
  intro scenario other seen again
  have alike (stage : Stage) :
      Option.Rel (Alike scenario 0xFF stage) (seen.stage stage) (again.stage stage) := by
    have axes : ∀ axis, (scenario.expected.axes.get axis).isSome → axis = .lx := by
      intro axis
      cases axis <;> decide
    cases stage with
    | wireless | generic | wired =>
      refine .some ⟨(sameButtons_iff _ _ _).mpr (by decide), fun axis has => ?_⟩
      rw [axes axis has]
      rfl
    | mapped => exact .none
  exact ⟨(disagreements_listed scenario seen 0xFF).2.2.2 other again rfl (by decide) alike, by decide⟩

end Verdict

end PadBench
