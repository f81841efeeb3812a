import PadBench.Adapter.Store
import PadBench.Proofs.Adapter.Calibrated

/-!
What calls with calibration reports keep of an adapter.

`Keeps` is kept by every call (`afterCall_keeps`) and so by every history of calls (`afterCalls_keeps`), and
so is soundness of the axes. `calls_keep_store` puts both together with what a failed call leaves behind.
-/
namespace PadBench.Adapter

/-- The later adapter is the earlier one, but for the numbers of its calibrated sticks. -/
structure Keeps (adapter later : Adapter) : Prop where
  present : ∀ axis, (later.source.axes.get axis).isSome = (adapter.source.axes.get axis).isSome
  /-- The polarity and the range of an axis are not a report's to change. -/
  shape : ∀ axis before after, adapter.source.axes.get axis = some before →
    later.source.axes.get axis = some after → after.inverted = before.inverted ∧ after.range = before.range
  triggers : ∀ axis, axis.isTrigger = true → later.source.axes.get axis = adapter.source.axes.get axis
  rest : later = { adapter with source := { adapter.source with axes := later.source.axes } }

namespace Keeps

theorem refl (adapter : Adapter) : adapter.Keeps adapter where
  present := fun _ => rfl
  shape := by
    intro axis before after same kept
    rw [same] at kept
    cases kept
    exact ⟨rfl, rfl⟩
  triggers := fun _ _ => rfl
  rest := rfl

theorem trans {adapter middle later : Adapter} (first : adapter.Keeps middle) (second : middle.Keeps later) :
    adapter.Keeps later where
  present := fun axis => (second.present axis).trans (first.present axis)
  shape := by
    intro axis before after had has
    have between := first.present axis
    rw [had, Option.isSome_some] at between
    obtain ⟨calibration, here⟩ := Option.isSome_iff_exists.mp between
    obtain ⟨polarity, range⟩ := first.shape axis before calibration had here
    obtain ⟨polarity', range'⟩ := second.shape axis calibration after here has
    exact ⟨polarity'.trans polarity, range'.trans range⟩
  triggers := fun axis trigger => (second.triggers axis trigger).trans (first.triggers axis trigger)
  rest := by
    have whole := second.rest
    rw [first.rest] at whole
    exact whole

theorem calibration {adapter later : Adapter} (keeps : adapter.Keeps later) :
    later.source.calibration = adapter.source.calibration := by
  rw [keeps.rest]

end Keeps

section

variable {adapter later : Adapter} {report : CalibrationReport} {layout : CalibrationLayout} {axes : AxisSet}

theorem applied_keeps (applied : report.applyTo adapter.source.axes layout = .ok axes) :
    adapter.Keeps { adapter with source := { adapter.source with axes } } where
  present := CalibrationReport.applyTo_present applied
  shape := by
    intro axis before after had has
    obtain ⟨same, _⟩ | ⟨index, default, calibration, found, _, placed⟩ :=
      CalibrationReport.applyTo_get applied axis
    · rw [same, had] at has
      cases has
      exact ⟨rfl, rfl⟩
    · obtain ⟨_, present, reported, _, _, rfl⟩ := CalibrationReport.replacement?_eq_some_iff.mp found
      rw [placed] at has
      rw [present] at had
      cases has
      cases had
      exact ⟨rfl, rfl⟩
  triggers := by
    intro axis trigger
    obtain ⟨same, _⟩ | ⟨index, default, calibration, found, _, _⟩ :=
      CalibrationReport.applyTo_get applied axis
    · exact same
    · have stick := (CalibrationLayout.stick_of_axis?
        (CalibrationReport.replacement?_eq_some_iff.mp found).1).2
      rw [trigger] at stick
      cases stick
  rest := rfl

theorem applied_sound (applied : report.applyTo adapter.source.axes layout = .ok axes)
    (sound : adapter.source.axes.fault? = none) : axes.fault? = none := by
  rw [AxisSet.fault?_eq_none_iff] at sound ⊢
  intro axis calibration present
  obtain ⟨same, _⟩ | ⟨index, default, replacement, _, judged, placed⟩ :=
    CalibrationReport.applyTo_get applied axis
  · exact sound axis calibration (same ▸ present)
  · rw [placed] at present
    cases present
    exact (Calibration.faultAround?_eq_none_iff.mp judged).1

/-- A call leaves the adapter as it was, or with the axes of an accepted report. -/
theorem afterCall_cases (adapter : Adapter) (report : CalibrationReport) :
    adapter.afterCall report = adapter ∨
      ∃ layout axes, report.applyTo adapter.source.axes layout = .ok axes ∧
        adapter.afterCall report = { adapter with source := { adapter.source with axes } } := by
  cases outcome : adapter.calibrate report with
  | error cause => exact .inl (afterCall_of_error outcome)
  | ok later =>
    rw [afterCall_of_ok outcome]
    obtain ⟨_, same⟩ | ⟨layout, axes, _, applied, changed⟩ := calibrate_eq outcome
    · exact .inl same
    · exact .inr ⟨layout, axes, applied, changed⟩

theorem afterCall_keeps (adapter : Adapter) (report : CalibrationReport) :
    adapter.Keeps (adapter.afterCall report) := by
  obtain same | ⟨layout, axes, applied, changed⟩ := afterCall_cases adapter report
  · rw [same]
    exact .refl adapter
  · rw [changed]
    exact applied_keeps applied

theorem afterCall_sound (sound : adapter.source.axes.fault? = none) (report : CalibrationReport) :
    (adapter.afterCall report).source.axes.fault? = none := by
  obtain same | ⟨layout, axes, applied, changed⟩ := afterCall_cases adapter report
  · rw [same]
    exact sound
  · rw [changed]
    exact applied_sound applied sound

theorem afterCalls_keeps (adapter : Adapter) (history : List CalibrationReport) :
    adapter.Keeps (adapter.afterCalls history) := by
  induction history generalizing adapter with
  | nil => exact .refl adapter
  | cons report history ih => exact (afterCall_keeps adapter report).trans (ih _)

theorem afterCalls_sound (sound : adapter.source.axes.fault? = none) (history : List CalibrationReport) :
    (adapter.afterCalls history).source.axes.fault? = none := by
  induction history generalizing adapter with
  | nil => exact sound
  | cons report history ih => exact ih (afterCall_sound sound report)

theorem afterCalls_concat (adapter : Adapter) (history : List CalibrationReport) (report : CalibrationReport) :
    adapter.afterCalls (history ++ [report]) = (adapter.afterCalls history).afterCall report := by
  rw [afterCalls, List.foldl_append]
  rfl

/-- A pad that does not calibrate itself accepts every report and ignores it. -/
theorem recalibrate_of_fixed (fixed : adapter.source.calibration = none) (report : CalibrationReport) :
    recalibrate report adapter = .ok () adapter := by
  rw [recalibrate_eq, calibrate, fixed]

theorem afterCalls_of_fixed (fixed : adapter.source.calibration = none) (history : List CalibrationReport) :
    adapter.afterCalls history = adapter := by
  induction history with
  | nil => rfl
  | cons report history ih =>
    have ignored : adapter.afterCall report = adapter := by
      rw [afterCall, recalibrate_of_fixed fixed]
    rw [afterCalls, List.foldl_cons, ignored]
    exact ih

end

/-- Whatever has been reported before, a call leaves a sound store sound and changes nothing but the numbers
of sticks. A call that fails changes nothing at all, and so does every call on a pad that does not calibrate
itself, all of which succeed. -/
theorem calls_keep_store (adapter : Adapter) (sound : adapter.source.axes.fault? = none)
    (history : List CalibrationReport) (report : CalibrationReport) :
    let before := adapter.afterCalls history
    let later := before.afterCall report
    later.source.axes.fault? = none ∧ adapter.Keeps later ∧
    (∀ cause state, recalibrate report before = .error cause state → state = before) ∧
    (adapter.source.calibration = none → recalibrate report before = .ok () adapter) := by
  intro before later
  have last : later = adapter.afterCalls (history ++ [report]) :=
    (afterCalls_concat adapter history report).symm
  refine ⟨?_, ?_, ?_, ?_⟩
  · rw [last]
    exact afterCalls_sound sound _
  · rw [last]
    exact afterCalls_keeps adapter _
  · intro cause state failed
    rw [recalibrate_eq] at failed
    split at failed
    · cases failed
    · cases failed
      rfl
  · intro fixed
    have same : before = adapter := afterCalls_of_fixed fixed history
    rw [same]
    exact recalibrate_of_fixed fixed report

/-- The first report is taken over. Of the second the entry for `LX` is sound and the next one is not, so the
call fails and `LX` keeps what the first report gave it. -/
theorem calls_keep_store_of_half_sound :
    let adapter : Adapter := .withDefaults WirelessPad.switchPro.profile Console.gameCube.profile
    let before := adapter.afterCalls [⟨[3448, 0], [1400, 0], [1400, 0], [0, 0]⟩]
    let report : CalibrationReport := ⟨[2048, 2048], [1500, 0], [1400, 0], [0, 0]⟩
    adapter.source.axes.fault? = none ∧ before.source.axes ≠ adapter.source.axes ∧
    recalibrate report before = .error (.atEntry .ly 1 (.positiveTravel 0)) before ∧
    (before.afterCall report).source.axes.fault? = none ∧ adapter.Keeps (before.afterCall report) := by
  intro adapter before report
  have sound : adapter.source.axes.fault? = none := by decide +kernel
  obtain ⟨kept, keeps, same, _⟩ :=
    calls_keep_store adapter sound [⟨[3448, 0], [1400, 0], [1400, 0], [0, 0]⟩] report
  have refused : before.calibrate report = .error (.atEntry .ly 1 (.positiveTravel 0)) := by rfl
  have failed : ∃ state, recalibrate report before = .error (.atEntry .ly 1 (.positiveTravel 0)) state := by
    rw [recalibrate_eq, refused]
    exact ⟨_, rfl⟩
  obtain ⟨state, failed⟩ := failed
  rw [same _ _ failed] at failed
  exact ⟨sound, by decide +kernel, failed, kept, keeps⟩

end PadBench.Adapter
