import PadBench.Record.Observation

/-!
What an observation holds after records: in each stage the last record of that stage.

* `stage_ofRecords`: what a stage holds is one of the records;
* `isComplete_ofRecords_iff`: every stage has been seen exactly if there is a record of each;
* `isSome_calibration_ofRecords_iff`: a calibration has been seen exactly if there is a record of one.
-/
namespace PadBench

/-- The stage a record is of. -/
def Record.stage? : Record → Option Stage
  | .stage which _ => some which
  | _ => none

namespace Observation

variable {seen : Observation}

theorem pushAll_nil (seen : Observation) : seen.pushAll [] = seen := rfl

theorem pushAll_append (seen : Observation) (records more : List Record) :
    seen.pushAll (records ++ more) = (seen.pushAll records).pushAll more :=
  List.foldl_append

theorem empty_incomplete : empty.isComplete = false := rfl

/-- A stage holds what it held before or the record that was pushed. -/
theorem stage_push {record : Record} {which : Stage} {body : StageRecord}
    (holds : (seen.push record).stage which = some body) :
    record = .stage which body ∨ seen.stage which = some body := by
  cases record with
  | stage other pushed =>
    by_cases same : other = which
    · subst same
      left
      cases other <;> cases holds <;> rfl
    · right
      cases other <;> cases which <;> first | exact absurd rfl same | exact holds
  | _ => right; cases which <;> exact holds

/-- What a stage holds was there before or is one of the records. -/
theorem stage_pushAll {records : List Record} {which : Stage} {body : StageRecord}
    (holds : (seen.pushAll records).stage which = some body) :
    .stage which body ∈ records ∨ seen.stage which = some body := by
  induction records generalizing seen with
  | nil => exact .inr holds
  | cons record records ih =>
    rcases ih holds with later | now
    · exact .inl (List.mem_cons_of_mem _ later)
    · rcases stage_push now with rfl | before
      · exact .inl List.mem_cons_self
      · exact .inr before

theorem stage_ofRecords {records : List Record} {which : Stage} {body : StageRecord}
    (holds : (ofRecords records).stage which = some body) : .stage which body ∈ records := by
  rcases stage_pushAll holds with member | before
  · exact member
  · cases which <;> cases before

theorem isComplete_iff : seen.isComplete = true ↔ ∀ which, (seen.stage which).isSome := by
  simp only [isComplete, List.all_eq_true]
  exact ⟨fun all which => all which which.mem_all, fun all which _ => all which⟩

theorem stage_push_self (seen : Observation) (which : Stage) (body : StageRecord) :
    (seen.push (.stage which body)).stage which = some body := by
  cases which <;> rfl

/-- A stage stays seen. -/
theorem isSome_stage_push {which : Stage} (record : Record) (held : (seen.stage which).isSome) :
    ((seen.push record).stage which).isSome := by
  cases record with
  | stage other body => cases other <;> cases which <;> first | rfl | exact held
  | _ => cases which <;> exact held

theorem isSome_stage_pushAll {which : Stage} {records : List Record}
    (shown : (seen.stage which).isSome ∨ ∃ record ∈ records, record.stage? = some which) :
    ((seen.pushAll records).stage which).isSome := by
  induction records generalizing seen with
  | nil =>
    obtain held | ⟨_, nowhere, _⟩ := shown
    · exact held
    · cases nowhere
  | cons record records ih =>
    apply ih
    obtain held | ⟨other, member, shows⟩ := shown
    · exact .inl (isSome_stage_push record held)
    · rcases List.mem_cons.mp member with rfl | later
      · left
        cases other with
        | stage shown body =>
          cases shows
          rw [stage_push_self]
          rfl
        | _ => cases shows
      · exact .inr ⟨other, later, shows⟩

/-- What is seen of some records is complete exactly if they show every stage. -/
theorem isComplete_ofRecords_iff {records : List Record} :
    (ofRecords records).isComplete = true ↔ ∀ which, ∃ record ∈ records, record.stage? = some which := by
  rw [isComplete_iff]
  constructor
  · intro complete which
    obtain ⟨body, holds⟩ := Option.isSome_iff_exists.mp (complete which)
    exact ⟨_, stage_ofRecords holds, rfl⟩
  · exact fun shown which => isSome_stage_pushAll (.inr (shown which))

theorem isSome_calibration_push (seen : Observation) (record : Record) :
    (seen.push record).calibration.isSome = true ↔
      seen.calibration.isSome = true ∨ ∃ report, record = .calibration report := by
  cases record with
  | stage which body => cases which <;> simp [push]
  | _ => simp [push]

theorem isSome_calibration_pushAll (seen : Observation) (records : List Record) :
    (seen.pushAll records).calibration.isSome = true ↔
      seen.calibration.isSome = true ∨ ∃ report, .calibration report ∈ records := by
  induction records generalizing seen with
  | nil => simp [pushAll_nil]
  | cons record records ih =>
    have step : seen.pushAll (record :: records) = (seen.push record).pushAll records := rfl
    rw [step, ih, isSome_calibration_push, or_assoc]
    simp only [List.mem_cons, exists_or, eq_comm]

theorem isSome_calibration_ofRecords_iff {records : List Record} :
    (ofRecords records).calibration.isSome = true ↔ ∃ report, .calibration report ∈ records := by
  rw [ofRecords, isSome_calibration_pushAll]
  simp [empty]

end Observation

end PadBench
