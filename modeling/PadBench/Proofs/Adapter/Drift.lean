import Mathlib.Data.List.Induction
import PadBench.Proofs.Adapter.Narrow
import PadBench.Proofs.Adapter.Store

/-!
How far reports can take the sticks of an adapter from the tables of its pad.

A report is judged against the axes in force, which earlier reports have already moved.

* `AxisSet.IsAround`: every stick rests within one travel of its nominal neutral;
* `isAround_step`: an accepted report keeps to that exactly if all it puts is near the neutrals at first;
* `calibrate_at_first_iff`: of accepted reports these are the ones that the adapter would have accepted at first,
  but for sums that leave the range;
* `afterCall_around`: in any case a report keeps within one travel of the neutral that it replaces;
* `isAround_iff`, `nominal_iff`: which runs keep every stick near the tables of the pad.
-/
namespace PadBench

/-- What a report cannot change of the calibration of an axis. -/
def Calibration.shape (calibration : Calibration) : Bool × Option StorageRange :=
  (calibration.inverted, calibration.range)

/-- Every stick rests within one of its own travels of its nominal neutral. -/
def AxisSet.IsAround (axes nominal : AxisSet) : Prop :=
  ∀ axis live default, axis.isTrigger = false → axes.get axis = some live → nominal.get axis = some default →
    live.IsNear default.neutral

/-- Every neutral is an axis value. -/
def AxisSet.RestsInside (axes : AxisSet) : Prop :=
  ∀ axis calibration, axes.get axis = some calibration →
    Signed32.least ≤ calibration.neutral ∧ calibration.neutral ≤ Signed32.greatest

theorem AxisSet.isAround_self {axes : AxisSet} (sound : axes.fault? = none) : axes.IsAround axes := by
  intro axis live default _ present nominal
  rw [present] at nominal
  cases nominal
  have travels := Calibration.travels_of_sound (AxisSet.fault?_eq_none_iff.mp sound axis live present)
  rw [Calibration.IsNear]
  omega

namespace CalibrationReport

variable {report : CalibrationReport} {axes others nominal result : AxisSet} {layout : CalibrationLayout}
  {index : Nat} {axis : Axis} {default calibration : Calibration}

/-- Of the calibration it replaces, an entry takes over the shape only. -/
theorem adapting_of_shape {reported : ReportedAxis} {other : Calibration}
    (alike : default.shape = other.shape) : reported.adapting default = reported.adapting other := by
  obtain ⟨polarity, range⟩ := Prod.mk.inj alike
  simp only [ReportedAxis.adapting, polarity, range]

/-- On axes of the same shape an entry puts the same calibration. -/
theorem replacement?_of_shape
    (alike : ∀ axis, (axes.get axis).map Calibration.shape = (others.get axis).map Calibration.shape)
    (found : report.replacement? axes layout index = some (axis, default, calibration)) :
    ∃ other, others.get axis = some other ∧
      report.replacement? others layout index = some (axis, other, calibration) := by
  obtain ⟨described, present, reported, listed, used, rfl⟩ := replacement?_eq_some_iff.mp found
  have shape := alike axis
  rw [present, Option.map_some] at shape
  obtain ⟨other, given, same⟩ := Option.map_eq_some_iff.mp shape.symm
  refine ⟨other, given, replacement?_eq_some_iff.mpr ⟨described, given, reported, listed, used, ?_⟩⟩
  exact adapting_of_shape same.symm

section

variable (alike : ∀ axis, (axes.get axis).map Calibration.shape = (nominal.get axis).map Calibration.shape)
  (applied : report.applyTo axes layout = .ok result)

include alike applied

/-- Axes that are around the nominal ones stay so under a report that they accept exactly if all it puts is near
the nominal neutrals. -/
theorem applyTo_around_iff (near : axes.IsAround nominal) :
    result.IsAround nominal ↔ report.Puts nominal layout Calibration.IsNear := by
  obtain ⟨_, _, placed⟩ := applyTo_eq_ok_iff.mp applied
  -- Both sets get the same calibrations from the report, and only the neutrals they are judged around differ.
  constructor
  · intro around index axis default calibration found
    obtain ⟨described, given, _⟩ := replacement?_eq_some_iff.mp found
    obtain ⟨within, stick⟩ := CalibrationLayout.stick_of_axis? described
    obtain ⟨other, _, replaced⟩ := replacement?_of_shape (fun axis => (alike axis).symm) found
    have here : result.get axis = some calibration := by
      rw [← placed]
      exact get_foldl_place replaced (.inr (List.mem_range.mpr within))
    exact around axis calibration default stick here given
  · intro puts axis live default stick here given
    obtain ⟨same, _⟩ | ⟨index, other, calibration, found, _, there⟩ := applyTo_get applied axis
    · exact near axis live default stick (same ▸ here) given
    · rw [there] at here
      cases here
      obtain ⟨default', given', replaced⟩ := replacement?_of_shape alike found
      rw [given] at given'
      cases given'
      exact puts index axis default live replaced

/-- A report that is accepted elsewhere is accepted on the nominal axes exactly if all it puts is near their
neutrals, and no sum around them leaves the range. -/
theorem applyTo_nominal_iff (inside : nominal.RestsInside) :
    (∃ first, report.applyTo nominal layout = .ok first) ↔
      report.Puts nominal layout Calibration.SumsFit ∧ report.Puts nominal layout Calibration.IsNear := by
  obtain ⟨aligned, accepted, _⟩ := applyTo_eq_ok_iff.mp applied
  have sound {index axis default calibration}
      (found : report.replacement? nominal layout index = some (axis, default, calibration)) :
      calibration.fault? = none := by
    obtain ⟨other, _, replaced⟩ := replacement?_of_shape (fun axis => (alike axis).symm) found
    exact (Calibration.faultAround?_eq_none_iff.mp (accepted index axis other calibration replaced)).1
  have judged {index axis default calibration}
      (found : report.replacement? nominal layout index = some (axis, default, calibration)) :
      calibration.faultAround? default.neutral = none ↔
        calibration.SumsFit default.neutral ∧ calibration.IsNear default.neutral := by
    rw [Calibration.faultAround?_eq_none_iff, Calibration.isCentered_iff (isSigned32_of_replacement? found)
      (sound found) (inside axis default (replacement?_eq_some_iff.mp found).2.1)]
    exact and_iff_right (sound found)
  simp only [applyTo_eq_ok_iff, aligned, true_and, exists_and_left, exists_eq', and_true]
  constructor
  · intro taken
    exact ⟨fun index axis default calibration found =>
        ((judged found).mp (taken index axis default calibration found)).1,
      fun index axis default calibration found =>
        ((judged found).mp (taken index axis default calibration found)).2⟩
  · rintro ⟨fit, near⟩ index axis default calibration found
    exact (judged found).mpr ⟨fit index axis default calibration found, near index axis default calibration found⟩

end

end CalibrationReport

namespace Adapter

variable {start before later : Adapter} {report : CalibrationReport}

theorem Keeps.alike (keeps : start.Keeps before) (axis : Axis) :
    (before.source.axes.get axis).map Calibration.shape =
      (start.source.axes.get axis).map Calibration.shape := by
  have present := keeps.present axis
  cases had : start.source.axes.get axis with
  | none =>
    rw [had, Option.isSome_none, Option.isSome_eq_false_iff, Option.isNone_iff_eq_none] at present
    rw [present]
  | some default =>
    rw [had, Option.isSome_some] at present
    obtain ⟨live, has⟩ := Option.isSome_iff_exists.mp present
    obtain ⟨polarity, range⟩ := keeps.shape axis default live had has
    rw [has, Option.map_some, Option.map_some, Calibration.shape, Calibration.shape, polarity, range]

theorem calibrate_ok_iff {adapter : Adapter} {layout : CalibrationLayout}
    (live : adapter.source.calibration = some layout) :
    (∃ later, adapter.calibrate report = .ok later) ↔
      ∃ axes, report.applyTo adapter.source.axes layout = .ok axes := by
  simp only [calibrate, live]
  cases report.applyTo adapter.source.axes layout <;> simp [Except.map]

/-- A report that the adapter takes over near its first neutrals keeps it near them exactly if all that the report
puts is. -/
theorem isAround_step (keeps : start.Keeps before) (near : before.source.axes.IsAround start.source.axes)
    (accepted : before.calibrate report = .ok later) :
    later.source.axes.IsAround start.source.axes ↔ start.Puts report Calibration.IsNear := by
  obtain ⟨fixed, rfl⟩ | ⟨layout, axes, live, applied, rfl⟩ := calibrate_eq accepted
  · rw [keeps.calibration] at fixed
    refine ⟨fun _ layout live => ?_, fun _ => near⟩
    rw [fixed] at live
    cases live
  · rw [keeps.calibration] at live
    simp only [CalibrationReport.applyTo_around_iff keeps.alike applied near, Puts, live, Option.some.injEq,
      forall_eq']

/-- A report that the adapter takes over would have been taken over at first exactly if all that it puts is near
the first neutrals, and no sum around them leaves the range. -/
theorem calibrate_at_first_iff (keeps : start.Keeps before) (inside : start.source.axes.RestsInside)
    (accepted : before.calibrate report = .ok later) :
    (∃ first, start.calibrate report = .ok first) ↔
      start.Puts report Calibration.SumsFit ∧ start.Puts report Calibration.IsNear := by
  obtain ⟨fixed, rfl⟩ | ⟨layout, axes, live, applied, rfl⟩ := calibrate_eq accepted
  · rw [keeps.calibration] at fixed
    refine iff_of_true ⟨start, ?_⟩ ⟨fun layout live => ?_, fun layout live => ?_⟩
    · rw [calibrate, fixed]
    all_goals
      rw [fixed] at live
      cases live
  · rw [keeps.calibration] at live
    rw [calibrate_ok_iff live, CalibrationReport.applyTo_nominal_iff keeps.alike applied inside]
    simp only [Puts, live, Option.some.injEq, forall_eq']

/-- What a call has put on an axis was judged around the neutral that it replaced. -/
theorem afterCall_get (adapter : Adapter) (report : CalibrationReport) {axis : Axis} {live : Calibration}
    (has : (adapter.afterCall report).source.axes.get axis = some live) :
    adapter.source.axes.get axis = some live ∨ ∃ old, adapter.source.axes.get axis = some old ∧
      live.IsSigned32 ∧ live.faultAround? old.neutral = none := by
  obtain same | ⟨layout, axes, applied, changed⟩ := afterCall_cases adapter report
  · rw [same] at has
    exact .inl has
  · rw [changed] at has
    obtain ⟨same, _⟩ | ⟨index, old, calibration, found, judged, placed⟩ :=
      CalibrationReport.applyTo_get applied axis
    · rw [same] at has
      exact .inl has
    · rw [placed] at has
      cases has
      exact .inr ⟨old, (CalibrationReport.replacement?_eq_some_iff.mp found).2.1,
        CalibrationReport.isSigned32_of_replacement? found, judged⟩

theorem afterCall_inside {adapter : Adapter} (inside : adapter.source.axes.RestsInside)
    (report : CalibrationReport) : (adapter.afterCall report).source.axes.RestsInside := by
  intro axis live has
  obtain had | ⟨_, _, numbers, _⟩ := afterCall_get adapter report has
  · exact inside axis live had
  · exact numbers.neutral

theorem afterCalls_inside {adapter : Adapter} (inside : adapter.source.axes.RestsInside)
    (history : List CalibrationReport) : (adapter.afterCalls history).source.axes.RestsInside := by
  induction history generalizing adapter with
  | nil => exact inside
  | cons report history ih => exact ih (afterCall_inside inside report)

/-- A call never takes a stick further than one travel from where it was. -/
theorem afterCall_around {adapter : Adapter} (inside : adapter.source.axes.RestsInside)
    (report : CalibrationReport) {axis : Axis} {old live : Calibration}
    (had : adapter.source.axes.get axis = some old)
    (has : (adapter.afterCall report).source.axes.get axis = some live) :
    live = old ∨ live.IsNear old.neutral := by
  obtain same | ⟨replaced, given, numbers, judged⟩ := afterCall_get adapter report has
  · rw [had] at same
    exact .inl (Option.some.inj same).symm
  · rw [had] at given
    cases given
    obtain ⟨sound, centered⟩ := Calibration.faultAround?_eq_none_iff.mp judged
    exact .inr ((Calibration.isCentered_iff numbers sound (inside axis old had)).mp centered).2

/-- A run keeps every stick near where it was at first exactly if all that the reports put which it takes over is
near there. -/
theorem isAround_iff (sound : start.source.axes.fault? = none) (reports : List CalibrationReport) :
    (∀ earlier, earlier <+: reports → (start.afterCalls earlier).source.axes.IsAround start.source.axes) ↔
      ∀ earlier report, earlier ++ [report] <+: reports →
        (∃ later, (start.afterCalls earlier).calibrate report = .ok later) →
          start.Puts report Calibration.IsNear := by
  constructor
  · rintro around earlier report within ⟨later, accepted⟩
    have before := around earlier ((List.prefix_append earlier [report]).trans within)
    have after := around (earlier ++ [report]) within
    rw [afterCalls_concat, afterCall_of_ok accepted] at after
    exact (isAround_step (afterCalls_keeps start earlier) before accepted).mp after
  · intro taken earlier
    -- Calls are added at the end, so that each is judged against what all calls before it have left.
    induction earlier using List.reverseRecOn with
    | nil =>
      intro _
      exact AxisSet.isAround_self sound
    | append_singleton earlier report ih =>
      intro within
      have before := ih ((List.prefix_append earlier [report]).trans within)
      rw [afterCalls_concat]
      cases outcome : (start.afterCalls earlier).calibrate report with
      | error cause =>
        rw [afterCall_of_error outcome]
        exact before
      | ok later =>
        rw [afterCall_of_ok outcome]
        exact (isAround_step (afterCalls_keeps start earlier) before outcome).mpr
          (taken earlier report within ⟨later, outcome⟩)

end Adapter

theorem WirelessPad.axes_sound (pad : WirelessPad) : pad.axes.fault? = none := by
  cases pad <;> rfl

theorem WirelessPad.axes_inside (pad : WirelessPad) : pad.axes.RestsInside := by
  intro axis calibration has
  have narrow := (pad.axes_narrow has).neutral
  rw [Signed32.least, Signed32.greatest]
  omega

/-- Which runs keep every stick near the nominal neutral of its pad: those that take over no report with an entry
farther than its own travel from there. A report that a run takes over is one that the tables of the pad would
have let pass as well exactly if it has no such entry, and no sum around a nominal neutral leaves the range. In
every run each call keeps within one travel of the neutral that it replaces. -/
theorem Adapter.nominal_iff (pad : WirelessPad) (wired : WiredProfile) (fraction : BinaryFloat)
    (reports : List CalibrationReport) :
    let start : Adapter := .withFraction pad.profile wired fraction
    ((∀ earlier, earlier <+: reports → (start.afterCalls earlier).source.axes.IsAround pad.axes) ↔
      ∀ earlier report, earlier ++ [report] <+: reports →
        (∃ later, (start.afterCalls earlier).calibrate report = .ok later) →
          start.Puts report Calibration.IsNear) ∧
    (∀ earlier report, (∃ later, (start.afterCalls earlier).calibrate report = .ok later) →
      ((∃ first, start.calibrate report = .ok first) ↔
        start.Puts report Calibration.SumsFit ∧ start.Puts report Calibration.IsNear)) ∧
    ∀ earlier report axis old live, (start.afterCalls earlier).source.axes.get axis = some old →
      (start.afterCalls (earlier ++ [report])).source.axes.get axis = some live →
        live = old ∨ live.IsNear old.neutral := by
  intro start
  have sound : start.source.axes.fault? = none := pad.axes_sound
  have inside : start.source.axes.RestsInside := pad.axes_inside
  refine ⟨isAround_iff sound reports, ?_, ?_⟩
  · rintro earlier report ⟨later, accepted⟩
    exact calibrate_at_first_iff (afterCalls_keeps start earlier) inside accepted
  · intro earlier report axis old live had has
    rw [afterCalls_concat] at has
    exact afterCall_around (afterCalls_inside inside earlier) report had has

/-- The second report is within reach of the first and not of the tables of the pad. -/
theorem Adapter.second_report_leaves_nominal :
    let start : Adapter := .withDefaults WirelessPad.switchPro.profile Console.gameCube.profile
    let reports : List CalibrationReport := [⟨[3448], [1400], [1400], [0]⟩, ⟨[4848], [1400], [1400], [0]⟩]
    (∃ live, (start.afterCalls reports).source.axes.get .lx = some live ∧ live.neutral = 4848) ∧
      ¬ (start.afterCalls reports).source.axes.IsAround WirelessPad.switchPro.axes := by
  intro start reports
  have live : (start.afterCalls reports).source.axes.get .lx = some (.symmetric 4848 1400) := by rfl
  refine ⟨⟨_, live, rfl⟩, fun around => ?_⟩
  have bound := (around .lx _ _ rfl live rfl).2
  revert bound
  decide

end PadBench
