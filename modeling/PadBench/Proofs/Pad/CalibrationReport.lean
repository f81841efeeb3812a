import PadBench.Pad.CalibrationReport
import PadBench.Proofs.Pad.Calibration

/-!
What a calibration report makes of the axes it is taken over on.

* `replacement?_eq_some_iff`: which entries replace the calibration of an axis, and by what;
* `applyTo_eq_ok_iff`: a report is accepted exactly if its lists have one length and every replacement is
  sound around the neutral it replaces;
* `applyTo_get`: each axis is then as its entry says or, without one, as it was.
-/
namespace PadBench

namespace CalibrationLayout

/-- The entry that describes an axis. -/
def position (layout : CalibrationLayout) (axis : Axis) : Nat :=
  match layout with
  | .direct => axis.index
  | .swapped => axis.index ^^^ 1

variable {layout : CalibrationLayout} {index : Nat} {axis : Axis}

theorem position_of_axis? (described : layout.axis? index = some axis) : layout.position axis = index := by
  obtain _ | _ | _ | _ | index := index <;> cases layout <;> cases described <;> rfl

/-- Only sticks are described, each by one of the first four entries. -/
theorem stick_of_axis? (described : layout.axis? index = some axis) :
    index < CalibrationReport.sticks ∧ axis.isTrigger = false := by
  obtain _ | _ | _ | _ | index := index <;> cases layout <;> cases described <;> decide

end CalibrationLayout

namespace CalibrationReport

section

variable {report : CalibrationReport} {defaults axes result : AxisSet} {layout : CalibrationLayout}
  {index : Nat} {axis : Axis} {default calibration : Calibration}

theorem replacement?_eq_some_iff :
    report.replacement? defaults layout index = some (axis, default, calibration) ↔
      layout.axis? index = some axis ∧ defaults.get axis = some default ∧
        ∃ reported, report.entry? index = some reported ∧ reported.neutral ≠ 0 ∧
          calibration = reported.adapting default := by
  simp only [replacement?, Option.bind_eq_bind, Option.bind_eq_some_iff]
  constructor
  · rintro ⟨target, described, nominal, present, reported, listed, kept⟩
    split at kept
    · cases kept
    · rename_i used
      cases kept
      exact ⟨described, present, reported, listed, used, rfl⟩
  · rintro ⟨described, present, reported, listed, used, rfl⟩
    exact ⟨axis, described, default, present, reported, listed, if_neg used⟩

/-- What holds of each calibration that the report puts on an axis, and of the neutral it replaces. -/
def Puts (report : CalibrationReport) (defaults : AxisSet) (layout : CalibrationLayout)
    (holds : Calibration → Int → Prop) : Prop :=
  ∀ index axis default calibration,
    report.replacement? defaults layout index = some (axis, default, calibration) →
      holds calibration default.neutral

/-- What a report puts on an axis are axis values. -/
theorem isSigned32_of_replacement?
    (found : report.replacement? defaults layout index = some (axis, default, calibration)) :
    calibration.IsSigned32 := by
  obtain ⟨_, _, reported, listed, _, rfl⟩ := replacement?_eq_some_iff.mp found
  simp only [Option.bind_eq_bind, entry?, Option.bind_eq_some_iff, Option.some.injEq] at listed
  obtain ⟨neutral, _, positive, _, negative, _, deadzone, _, rfl⟩ := listed
  exact ⟨⟨neutral.le_toInt, Int.le_of_lt_add_one neutral.toInt_lt⟩, Int.le_of_lt_add_one positive.toInt_lt,
    Int.le_of_lt_add_one negative.toInt_lt⟩

/-- Every calibration that the report puts on an axis is sound around the neutral it replaces. -/
def IsSound (report : CalibrationReport) (defaults : AxisSet) (layout : CalibrationLayout) : Prop :=
  ∀ index axis default calibration,
    report.replacement? defaults layout index = some (axis, default, calibration) →
      calibration.faultAround? default.neutral = none

/-- The axes with the replacement of one entry in place. -/
def place (report : CalibrationReport) (defaults : AxisSet) (layout : CalibrationLayout) (axes : AxisSet)
    (index : Nat) : AxisSet :=
  match report.replacement? defaults layout index with
  | none => axes
  | some (axis, _, calibration) => axes.set axis (some calibration)

theorem takeOver_eq_ok_iff {indices : List Nat} :
    report.takeOver defaults layout indices axes = .ok result ↔
      (∀ index ∈ indices, ∀ axis default calibration,
        report.replacement? defaults layout index = some (axis, default, calibration) →
          calibration.faultAround? default.neutral = none) ∧
      indices.foldl (report.place defaults layout) axes = result := by
  induction indices generalizing axes with
  | nil => simp [takeOver]
  | cons index indices ih =>
    rw [takeOver, List.forall_mem_cons, List.foldl_cons, place]
    cases found : report.replacement? defaults layout index with
    | none => simp [ih]
    | some replaced =>
      obtain ⟨axis, default, calibration⟩ := replaced
      cases judged : calibration.faultAround? default.neutral with
      | some fault =>
        simp only [judged, reduceCtorEq, false_iff]
        rintro ⟨⟨sound, _⟩, _⟩
        rw [sound axis default calibration rfl] at judged
        cases judged
      | none =>
        simp only [judged, ih, Option.some.injEq, Prod.mk.injEq]
        constructor
        · rintro ⟨rest, placed⟩
          refine ⟨⟨?_, rest⟩, placed⟩
          rintro _ _ _ ⟨rfl, rfl, rfl⟩
          exact judged
        · rintro ⟨⟨_, rest⟩, placed⟩
          exact ⟨rest, placed⟩

theorem applyTo_eq_ok_iff :
    report.applyTo defaults layout = .ok result ↔
      report.isAligned = true ∧ report.IsSound defaults layout ∧
        (List.range sticks).foldl (report.place defaults layout) defaults = result := by
  rw [applyTo]
  split
  · rename_i aligned
    rw [takeOver_eq_ok_iff]
    refine ⟨fun ⟨sound, placed⟩ => ⟨aligned, fun index axis default calibration found => ?_, placed⟩,
      fun ⟨_, sound, placed⟩ => ⟨fun index _ => sound index, placed⟩⟩
    have stick := (CalibrationLayout.stick_of_axis? (replacement?_eq_some_iff.mp found).1).1
    exact sound index (List.mem_range.mpr stick) axis default calibration found
  · rename_i skewed
    simp [skewed]

/-- What an entry puts on its axis stays there: no other entry describes the axis. -/
theorem get_foldl_place {indices : List Nat}
    (found : report.replacement? defaults layout index = some (axis, default, calibration))
    (reached : axes.get axis = some calibration ∨ index ∈ indices) :
    (indices.foldl (report.place defaults layout) axes).get axis = some calibration := by
  induction indices generalizing axes with
  | nil => exact reached.resolve_right List.not_mem_nil
  | cons next indices ih =>
    rw [List.foldl_cons]
    by_cases same : next = index
    · apply ih (.inl _)
      rw [same, place, found]
      simp [PerAxis.get_set]
    · apply ih
      refine reached.imp (fun placed => ?_) fun later => (List.mem_cons.mp later).resolve_left (Ne.symm same)
      rw [place]
      cases other : report.replacement? defaults layout next with
      | none => exact placed
      | some replaced =>
        obtain ⟨target, nominal, replacement⟩ := replaced
        have apart : axis ≠ target := by
          rintro rfl
          exact same ((CalibrationLayout.position_of_axis? (replacement?_eq_some_iff.mp other).1).symm.trans
            (CalibrationLayout.position_of_axis? (replacement?_eq_some_iff.mp found).1))
        simpa [PerAxis.get_set, apart] using placed

/-- An axis that no entry describes stays as it was. -/
theorem get_foldl_place_of_uncovered {indices : List Nat}
    (uncovered : ∀ index default calibration,
      report.replacement? defaults layout index ≠ some (axis, default, calibration)) :
    (indices.foldl (report.place defaults layout) axes).get axis = axes.get axis := by
  induction indices generalizing axes with
  | nil => rfl
  | cons next indices ih =>
    rw [List.foldl_cons, ih, place]
    cases other : report.replacement? defaults layout next with
    | none => rfl
    | some replaced =>
      obtain ⟨target, nominal, replacement⟩ := replaced
      have apart : axis ≠ target := by
        rintro rfl
        exact uncovered next nominal replacement other
      simp [PerAxis.get_set, apart]

/-- An accepted report leaves each axis as its entry says or, if there is none, as it was. -/
theorem applyTo_get (applied : report.applyTo defaults layout = .ok result) (axis : Axis) :
    (result.get axis = defaults.get axis ∧ ∀ index default calibration,
      report.replacement? defaults layout index ≠ some (axis, default, calibration)) ∨
    ∃ index default calibration,
      report.replacement? defaults layout index = some (axis, default, calibration) ∧
      calibration.faultAround? default.neutral = none ∧ result.get axis = some calibration := by
  obtain ⟨_, sound, rfl⟩ := applyTo_eq_ok_iff.mp applied
  by_cases covered : ∃ index default calibration,
      report.replacement? defaults layout index = some (axis, default, calibration)
  · obtain ⟨index, default, calibration, found⟩ := covered
    have stick := (CalibrationLayout.stick_of_axis? (replacement?_eq_some_iff.mp found).1).1
    exact .inr ⟨index, default, calibration, found, sound index axis default calibration found,
      get_foldl_place found (.inr (List.mem_range.mpr stick))⟩
  · have uncovered : ∀ index default calibration,
        report.replacement? defaults layout index ≠ some (axis, default, calibration) :=
      fun index default calibration found => covered ⟨index, default, calibration, found⟩
    exact .inl ⟨get_foldl_place_of_uncovered uncovered, uncovered⟩

/-- Calibrations are replaced and none is added. -/
theorem applyTo_present (applied : report.applyTo defaults layout = .ok result) (axis : Axis) :
    (result.get axis).isSome = (defaults.get axis).isSome := by
  obtain ⟨same, _⟩ | ⟨index, default, calibration, found, _, placed⟩ := applyTo_get applied axis
  · rw [same]
  · rw [placed, (replacement?_eq_some_iff.mp found).2.1, Option.isSome_some, Option.isSome_some]

end

end CalibrationReport

end PadBench
