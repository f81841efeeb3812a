import PadBench.Proofs.Record.Observation

/-!
What a list of records leaves in an observation, slot by slot.

Each record is of one slot. The records of a slot compete for its place, those of the device under two tags;
only the records without a place of their own are all kept.

* `push_eq`, `pushAll_eq`: one record more, and any number of records;
* `ofRecords_slots`: an observation holds the last record of each slot and the rest in order, and so when it
  is empty and when it is complete.
-/
namespace PadBench

namespace Record

/-- The body of a record of that stage. -/
def bodyOf? (which : Stage) : Record → Option StageRecord
  | .stage other body => if other = which then some body else none
  | _ => none

/-- What a record tells of the device, after a new name or a new type. -/
def deviceInfo? : Record → Option DeviceInfo
  | .deviceName info | .typeUpdate info => some info
  | _ => none

/-- The calibration that a record reports. -/
def reported? : Record → Option CalibrationReport
  | .calibration report => some report
  | _ => none

/-- A record without a place of its own. -/
def isOther : Record → Bool
  | .connected _ | .disconnected _ | .parsedReport _ | .unknown => true
  | _ => false

/-- The last of what some records hold of one kind. -/
def last? {α : Type} (read? : Record → Option α) (records : List Record) : Option α :=
  (records.filterMap read?).getLast?

variable {α : Type} (read? : Record → Option α)

theorem last?_nil : last? read? [] = none := rfl

theorem last?_cons (record : Record) (records : List Record) :
    last? read? (record :: records) = (last? read? records).or (read? record) := by
  rw [last?, last?, List.filterMap_cons]
  cases read? record with
  | none => rw [Option.or_none]
  | some found => rw [List.getLast?_cons, Option.or_some]

end Record

namespace Observation

open Record (last? bodyOf? deviceInfo? reported? isOther)

/-- A record takes the place of its slot, or follows the records without a place. -/
theorem push_eq (seen : Observation) (record : Record) :
    seen.push record =
      ⟨(record.bodyOf? .wireless).or seen.wireless, (record.bodyOf? .generic).or seen.generic,
        (record.bodyOf? .mapped).or seen.mapped, (record.bodyOf? .wired).or seen.wired,
        record.deviceInfo?.or seen.device, record.reported?.or seen.calibration,
        seen.other ++ [record].filter isOther⟩ := by
  cases record with
  | stage which body => cases which <;> simp [push, bodyOf?, deviceInfo?, Record.reported?, isOther]
  | _ => simp [push, bodyOf?, deviceInfo?, Record.reported?, isOther, List.filter]

/-- Of the records of a slot the last takes its place, and only without one it holds what it held before. -/
theorem pushAll_eq (seen : Observation) (records : List Record) :
    seen.pushAll records =
      ⟨(last? (bodyOf? .wireless) records).or seen.wireless, (last? (bodyOf? .generic) records).or seen.generic,
        (last? (bodyOf? .mapped) records).or seen.mapped, (last? (bodyOf? .wired) records).or seen.wired,
        (last? deviceInfo? records).or seen.device, (last? reported? records).or seen.calibration,
        seen.other ++ records.filter isOther⟩ := by
  induction records generalizing seen with
  | nil => simp [pushAll_nil, Record.last?_nil]
  | cons record records ih =>
    have step : seen.pushAll (record :: records) = (seen.push record).pushAll records := rfl
    rw [step, ih, push_eq]
    simp only [Record.last?_cons, Option.or_assoc, List.append_assoc, ← List.filter_append,
      List.singleton_append]

theorem push_ne_empty (seen : Observation) (record : Record) : seen.push record ≠ empty := by
  rw [push_eq, empty, ne_eq, Observation.mk.injEq]
  cases record with
  | stage which body => cases which <;> simp [bodyOf?]
  | _ => simp [deviceInfo?, Record.reported?, isOther]

/-- Every record leaves a trace. -/
theorem isEmpty_ofRecords_iff {records : List Record} : (ofRecords records).isEmpty = true ↔ records = [] := by
  rw [isEmpty, beq_iff_eq]
  constructor
  · intro same
    rcases List.eq_nil_or_concat records with none | ⟨former, last, rfl⟩
    · exact none
    · rw [List.concat_eq_append, ofRecords, pushAll_append] at same
      exact absurd same (push_ne_empty _ last)
  · rintro rfl
    rfl

/-- What is complete stays complete, whatever follows. -/
theorem isComplete_pushAll {seen : Observation} (complete : seen.isComplete = true) (records : List Record) :
    (seen.pushAll records).isComplete = true :=
  isComplete_iff.mpr fun which => isSome_stage_pushAll (.inl (isComplete_iff.mp complete which))

/-- An observation holds the last record of each stage, of the device under either of its tags and of the
calibration, and every other record in its order. So it is empty only of no records, it is complete exactly
if there are records of all stages, and it stays so. -/
theorem ofRecords_slots (records : List Record) :
    let seen := ofRecords records
    (∀ which, seen.stage which = last? (bodyOf? which) records) ∧
      seen.device = last? deviceInfo? records ∧ seen.calibration = last? reported? records ∧
      seen.other = records.filter isOther ∧ (seen.isEmpty = true ↔ records = []) ∧
      (seen.isComplete = true ↔ ∀ which, ∃ record ∈ records, record.stage? = some which) ∧
      ∀ more, seen.isComplete = true → (ofRecords (records ++ more)).isComplete = true := by
  intro seen
  have slots : seen = _ := pushAll_eq empty records
  simp only [empty, Option.or_none, List.nil_append] at slots
  refine ⟨?_, ?_, ?_, ?_, isEmpty_ofRecords_iff, isComplete_ofRecords_iff, ?_⟩
  · intro which
    rw [slots]
    cases which <;> rfl
  · rw [slots]
  · rw [slots]
  · rw [slots]
  · intro more complete
    rw [ofRecords, pushAll_append]
    exact isComplete_pushAll complete more

end Observation

end PadBench
