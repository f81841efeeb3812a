import PadBench.Adapter.Model
import PadBench.Proofs.Pad.CalibrationReport

/-!
Adapters that calibration has reached: what live calibration can change of the tables an adapter was
built with, and what it leaves alone.
-/
namespace PadBench

namespace Adapter

/-- The adapter has the tables of the pad. Of its axes only the calibration may differ, and that only if
the pad calibrates itself. -/
structure Follows (adapter : Adapter) (pad : WirelessPad) : Prop where
  buttons : adapter.source.buttons = pad.buttons
  hat : adapter.source.hat = pad.hat
  calibration : adapter.source.calibration = pad.calibration
  present : ∀ axis, (adapter.source.axes.get axis).isSome = (pad.axes.get axis).isSome
  fixed : pad.calibration = none → adapter.source.axes = pad.axes

theorem withFraction_follows (pad : WirelessPad) (wired : WiredProfile) (fraction : BinaryFloat) :
    (withFraction pad.profile wired fraction).Follows pad :=
  ⟨rfl, rfl, rfl, fun _ => rfl, fun _ => rfl⟩

/-- A calibration changes the axes of the source and nothing else. -/
theorem calibrate_eq {adapter result : Adapter} {report : CalibrationReport}
    (accepted : adapter.calibrate report = .ok result) :
    (adapter.source.calibration = none ∧ result = adapter) ∨
      ∃ layout axes, adapter.source.calibration = some layout ∧
        report.applyTo adapter.source.axes layout = .ok axes ∧
        result = { adapter with source := { adapter.source with axes } } := by
  simp only [calibrate] at accepted
  split at accepted
  · rename_i fixed
    exact .inl ⟨fixed, (Except.ok.inj accepted).symm⟩
  · rename_i layout live
    cases applied : report.applyTo adapter.source.axes layout with
    | error cause => rw [applied] at accepted; cases accepted
    | ok axes =>
      rw [applied] at accepted
      exact .inr ⟨layout, axes, live, applied, (Except.ok.inj accepted).symm⟩

/-- What holds of each calibration that a report puts on an axis of the adapter, and of the neutral it
replaces. -/
def Puts (adapter : Adapter) (report : CalibrationReport) (holds : Calibration → Int → Prop) : Prop :=
  ∀ layout, adapter.source.calibration = some layout → report.Puts adapter.source.axes layout holds

theorem calibrate_follows {adapter result : Adapter} {pad : WirelessPad} {report : CalibrationReport}
    (follows : adapter.Follows pad) (accepted : adapter.calibrate report = .ok result) :
    result.Follows pad := by
  obtain ⟨_, rfl⟩ | ⟨layout, axes, live, applied, rfl⟩ := calibrate_eq accepted
  · exact follows
  · refine ⟨follows.buttons, follows.hat, follows.calibration, ?_, ?_⟩
    · intro axis
      rw [← follows.present axis]
      exact CalibrationReport.applyTo_present applied axis
    · intro fixed
      rw [follows.calibration, fixed] at live
      cases live

theorem calibrate_fraction {adapter result : Adapter} {report : CalibrationReport}
    (accepted : adapter.calibrate report = .ok result) : result.fraction = adapter.fraction := by
  obtain ⟨_, rfl⟩ | ⟨layout, axes, _, _, rfl⟩ := calibrate_eq accepted <;> rfl

/-- What every calibration keeps is kept by any number of them. -/
theorem foldlM_calibrate (Kept : Adapter → Prop)
    (step : ∀ {adapter result : Adapter} {report : CalibrationReport}, Kept adapter →
      adapter.calibrate report = .ok result → Kept result)
    {reports : List CalibrationReport} {adapter result : Adapter} (start : Kept adapter)
    (accepted : reports.foldlM calibrate adapter = .ok result) : Kept result := by
  induction reports generalizing adapter with
  | nil =>
    cases accepted
    exact start
  | cons report reports ih =>
    rw [List.foldlM_cons] at accepted
    cases first : adapter.calibrate report with
    | error cause =>
      rw [first] at accepted
      cases accepted
    | ok next =>
      rw [first] at accepted
      exact ih (step start first) accepted

/-- An adapter that calibration has reached still has the tables of its pad. -/
theorem reached_follows {pad : WirelessPad} {wired : WiredProfile} {fraction : BinaryFloat}
    {reports : List CalibrationReport} {adapter : Adapter}
    (reached : reports.foldlM calibrate (.withFraction pad.profile wired fraction) = .ok adapter) :
    adapter.Follows pad :=
  foldlM_calibrate (Follows · pad) calibrate_follows (withFraction_follows pad wired fraction) reached

end Adapter

end PadBench
