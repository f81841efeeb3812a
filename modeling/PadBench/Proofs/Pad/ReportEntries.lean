import PadBench.Proofs.Pad.CalibrationReport
import PadBench.Wireless.Axes

/-!
A calibration report entry by entry: which axis each entry is for, what it puts there, and which entry a
refusal names.

* `replaces_iff`: an entry puts its four numbers on the axis of its place, with the axis' polarity and range;
* `takeOver_eq_error_iff`: of the entries that fail the first one is named;
* `applyTo_outcome`: a report is taken over exactly if its lists have one length and no entry fails, and it then
  changes just the axes it has an entry for.
-/
namespace PadBench

theorem CalibrationLayout.axis?_eq_some_iff {layout : CalibrationLayout} {index : Nat} {axis : Axis} :
    layout.axis? index = some axis ↔ index < CalibrationReport.sticks ∧ layout.position axis = index := by
  constructor
  · exact fun described => ⟨(stick_of_axis? described).1, position_of_axis? described⟩
  · rintro ⟨within, rfl⟩
    cases layout <;> cases axis <;> first | rfl | exact absurd within (by decide)

namespace CalibrationReport

variable {report : CalibrationReport} {defaults axes result : AxisSet} {layout : CalibrationLayout}
  {index : Nat} {axis : Axis} {default record : Calibration} {fault : CalibrationFault}

/-- Entry `index` of the report puts `record` on an axis that has been `default`. The report reaches no further
than its lists and the four stick axes, and an entry whose neutral is zero puts nothing anywhere. -/
structure Replaces (report : CalibrationReport) (defaults : AxisSet) (layout : CalibrationLayout)
    (index : Nat) (axis : Axis) (default record : Calibration) : Prop where
  within : index < min report.neutral.length sticks
  described : layout.position axis = index
  present : defaults.get axis = some default
  recorded : ∃ neutral positive negative deadzone : Int32,
    report.neutral[index]? = some neutral ∧ report.positiveTravel[index]? = some positive ∧
      report.negativeTravel[index]? = some negative ∧ report.deadzone[index]? = some deadzone ∧
      neutral ≠ 0 ∧
      record = ⟨neutral.toInt, positive.toInt, negative.toInt, deadzone.toInt, default.inverted, default.range⟩

theorem entry?_eq_some_iff {reported : ReportedAxis} :
    report.entry? index = some reported ↔
      ∃ neutral positive negative deadzone : Int32,
        report.neutral[index]? = some neutral ∧ report.positiveTravel[index]? = some positive ∧
          report.negativeTravel[index]? = some negative ∧ report.deadzone[index]? = some deadzone ∧
          reported = ⟨neutral.toInt, positive.toInt, negative.toInt, deadzone.toInt⟩ := by
  unfold entry?
  simp only [Option.bind_eq_bind, Option.bind_eq_some_iff, Option.some.injEq, exists_and_left,
    @eq_comm _ _ reported]

theorem toInt_ne_zero_iff {number : Int32} : number.toInt ≠ 0 ↔ number ≠ 0 := by
  rw [ne_eq, ne_eq, ← Int32.toInt_zero, Int32.toInt_inj]

/-- The entries that replace a calibration, and by what. -/
theorem replaces_iff :
    report.Replaces defaults layout index axis default record ↔
      report.replacement? defaults layout index = some (axis, default, record) := by
  rw [replacement?_eq_some_iff, CalibrationLayout.axis?_eq_some_iff]
  constructor
  · rintro ⟨within, described, present, neutral, positive, negative, deadzone, n, p, m, d, used, rfl⟩
    exact ⟨⟨(Nat.lt_min.mp within).2, described⟩, present, _,
      entry?_eq_some_iff.mpr ⟨neutral, positive, negative, deadzone, n, p, m, d, rfl⟩,
      toInt_ne_zero_iff.mpr used, rfl⟩
  · rintro ⟨⟨early, described⟩, present, reported, listed, used, rfl⟩
    obtain ⟨neutral, positive, negative, deadzone, n, p, m, d, rfl⟩ := entry?_eq_some_iff.mp listed
    have within : index < report.neutral.length := (List.getElem?_eq_some_iff.mp n).1
    exact ⟨Nat.lt_min.mpr ⟨within, early⟩, described, present,
      neutral, positive, negative, deadzone, n, p, m, d, toInt_ne_zero_iff.mp used, rfl⟩

/-- If the entry puts a record on an axis, that is sound around the neutral it replaces. -/
def IsSoundAt (report : CalibrationReport) (defaults : AxisSet) (layout : CalibrationLayout) (index : Nat) :
    Prop :=
  ∀ axis default record, report.Replaces defaults layout index axis default record →
    record.faultAround? default.neutral = none

/-- The entry puts a record on an axis that breaks a rule there; the fault names entry and axis. -/
def FailsAt (report : CalibrationReport) (defaults : AxisSet) (layout : CalibrationLayout) (index : Nat)
    (fault : CalibrationFault) : Prop :=
  ∃ axis default record cause, report.Replaces defaults layout index axis default record ∧
    record.faultAround? default.neutral = some cause ∧ fault = .atEntry axis index cause

theorem isSound_iff : report.IsSound defaults layout ↔ ∀ index, report.IsSoundAt defaults layout index := by
  simp only [IsSound, IsSoundAt, replaces_iff]

/-- Taking over stops at an entry that fails and goes on after one that does not. -/
theorem takeOver_cons_eq_error_iff {indices : List Nat} :
    report.takeOver defaults layout (index :: indices) axes = .error fault ↔
      report.FailsAt defaults layout index fault ∨
        report.IsSoundAt defaults layout index ∧
          report.takeOver defaults layout indices (report.place defaults layout axes index) = .error fault := by
  simp only [FailsAt, IsSoundAt, replaces_iff]
  rw [takeOver, place]
  cases found : report.replacement? defaults layout index with
  | none => simp
  | some replaced =>
    obtain ⟨axis, default, record⟩ := replaced
    cases judged : record.faultAround? default.neutral with
    | none =>
      simp only [judged, Option.some.injEq, Prod.mk.injEq]
      constructor
      · intro failed
        refine .inr ⟨?_, failed⟩
        rintro _ _ _ ⟨rfl, rfl, rfl⟩
        exact judged
      · rintro (⟨_, _, _, cause, ⟨rfl, rfl, rfl⟩, broken, _⟩ | ⟨_, failed⟩)
        · rw [judged] at broken
          cases broken
        · exact failed
    | some cause =>
      simp only [judged, Except.error.injEq, Option.some.injEq, Prod.mk.injEq]
      constructor
      · rintro rfl
        exact .inl ⟨axis, default, record, cause, ⟨rfl, rfl, rfl⟩, judged, rfl⟩
      · rintro (⟨_, _, _, _, ⟨rfl, rfl, rfl⟩, broken, rfl⟩ | ⟨sound, _⟩)
        · rw [judged] at broken
          cases broken
          rfl
        · rw [sound axis default record ⟨rfl, rfl, rfl⟩] at judged
          cases judged

/-- Of the entries that fail the first one is told, whatever has been taken over before it. -/
theorem takeOver_eq_error_iff {indices : List Nat} (ascending : indices.Pairwise (· < ·)) :
    report.takeOver defaults layout indices axes = .error fault ↔
      ∃ index ∈ indices, report.FailsAt defaults layout index fault ∧
        ∀ earlier ∈ indices, earlier < index → report.IsSoundAt defaults layout earlier := by
  induction indices generalizing axes with
  | nil => simp [takeOver]
  | cons first indices ih =>
    obtain ⟨before, ascending⟩ := List.pairwise_cons.mp ascending
    rw [takeOver_cons_eq_error_iff, ih ascending]
    constructor
    · rintro (fails | ⟨sound, index, later, fails, none⟩)
      · refine ⟨first, List.mem_cons_self, fails, ?_⟩
        intro earlier listed less
        rcases List.mem_cons.mp listed with rfl | listed
        · exact absurd less (Nat.lt_irrefl _)
        · exact absurd (before earlier listed) (Nat.lt_asymm less)
      · refine ⟨index, List.mem_cons_of_mem _ later, fails, ?_⟩
        intro earlier listed less
        rcases List.mem_cons.mp listed with rfl | listed
        · exact sound
        · exact none earlier listed less
    · rintro ⟨index, listed, fails, none⟩
      rcases List.mem_cons.mp listed with rfl | later
      · exact .inl fails
      · refine .inr ⟨none first List.mem_cons_self (before index later), index, later, fails, ?_⟩
        exact fun earlier listed less => none earlier (List.mem_cons_of_mem _ listed) less

theorem isAligned_iff :
    report.isAligned = true ↔ report.positiveTravel.length = report.neutral.length ∧
      report.negativeTravel.length = report.neutral.length ∧
      report.deadzone.length = report.neutral.length := by
  simp only [isAligned, Bool.and_eq_true, beq_iff_eq, and_assoc]

/-- Entries past the sticks are never looked at, so none of them fails. -/
theorem FailsAt.mem_range (fails : report.FailsAt defaults layout index fault) : index ∈ List.range sticks := by
  obtain ⟨_, _, _, _, replaces, _⟩ := fails
  exact List.mem_range.mpr (Nat.lt_min.mp replaces.within).2

/-- Taking over fails by the lengths of the lists or else by the first entry that fails. -/
theorem applyTo_eq_error_iff :
    report.applyTo defaults layout = .error fault ↔
      report.isAligned = false ∧ fault = .lengths report.neutral.length report.positiveTravel.length
        report.negativeTravel.length report.deadzone.length ∨
      report.isAligned = true ∧ ∃ index, report.FailsAt defaults layout index fault ∧
        ∀ earlier < index, report.IsSoundAt defaults layout earlier := by
  rw [applyTo]
  cases aligned : report.isAligned with
  | false =>
    simp only [Bool.false_eq_true, if_false, true_and, false_and, or_false, Except.error.injEq]
    exact eq_comm
  | true =>
    simp only [if_true, Bool.true_eq_false, false_and, false_or, true_and,
      takeOver_eq_error_iff List.pairwise_lt_range]
    constructor
    · rintro ⟨index, listed, fails, none⟩
      have early := List.mem_range.mp listed
      refine ⟨index, fails, fun earlier less => none earlier (List.mem_range.mpr ?_) less⟩
      omega
    · rintro ⟨index, fails, none⟩
      exact ⟨index, fails.mem_range, fails, fun earlier _ less => none earlier less⟩

/-- A report is taken over exactly if its lists have one length and no entry puts on its axis what is unsound
there. Each axis with an entry then has what the entry puts there, and every other axis is as it was. A report
that is not taken over is told by the lengths of its lists or else by its first entry that fails. -/
theorem applyTo_outcome (report : CalibrationReport) (defaults : AxisSet) (layout : CalibrationLayout) :
    let aligned := report.positiveTravel.length = report.neutral.length ∧
      report.negativeTravel.length = report.neutral.length ∧
      report.deadzone.length = report.neutral.length
    ((∃ result, report.applyTo defaults layout = .ok result) ↔
      aligned ∧ ∀ index, report.IsSoundAt defaults layout index) ∧
    (∀ result, report.applyTo defaults layout = .ok result →
      (∀ index axis default record, report.Replaces defaults layout index axis default record →
        result.get axis = some record) ∧
      ∀ axis, (∀ index default record, ¬ report.Replaces defaults layout index axis default record) →
        result.get axis = defaults.get axis) ∧
    ∀ fault, report.applyTo defaults layout = .error fault ↔
      ¬ aligned ∧ fault = .lengths report.neutral.length report.positiveTravel.length
        report.negativeTravel.length report.deadzone.length ∨
      aligned ∧ ∃ index, report.FailsAt defaults layout index fault ∧
        ∀ earlier < index, report.IsSoundAt defaults layout earlier := by
  intro aligned
  refine ⟨?_, ?_, ?_⟩
  · simp only [applyTo_eq_ok_iff, isSound_iff, isAligned_iff, exists_and_left, exists_eq', and_true]
    rfl
  · intro result applied
    obtain ⟨_, _, placed⟩ := applyTo_eq_ok_iff.mp applied
    constructor
    · intro index axis default record replaces
      rw [← placed]
      exact get_foldl_place (replaces_iff.mp replaces)
        (.inr (List.mem_range.mpr (Nat.lt_min.mp replaces.within).2))
    · intro axis uncovered
      rw [← placed]
      exact get_foldl_place_of_uncovered fun index default record found =>
        uncovered index default record (replaces_iff.mpr found)
  · intro fault
    rw [applyTo_eq_error_iff, ← Bool.not_eq_true, isAligned_iff]

/-- A Joy-Con held sideways: the first entry is for the vertical axis, the second one for the horizontal axis,
and the pad has no axis for the third. -/
example : applyTo ⟨[2032, 9000, 1], [1440, 1400, 0], [1376, 1400, 0], [174, 0, 0]⟩
    Wireless.Axes.leftJoyCon .swapped = .error (.atEntry .lx 1 (.neutral 9000 648 3448 2048)) := by cbv

end CalibrationReport

end PadBench
