import PadBench.Adapter.Model

/-!
An adapter as a store of calibration, changed in place by the reports of its pad.

A call that fails leaves the store in the state it had reached, and later calls go on from there.
-/
namespace PadBench.Adapter

/-- Take over a calibration report. A pad that does not calibrate itself ignores it. -/
def recalibrate (report : CalibrationReport) : EStateM CalibrationFault Adapter Unit := do
  let adapter ← get
  match adapter.source.calibration with
  | none => return
  | some layout =>
    match report.applyTo adapter.source.axes layout with
    | .error cause => throw cause
    | .ok axes => set { adapter with source := { adapter.source with axes } }

theorem recalibrate_eq (report : CalibrationReport) (adapter : Adapter) :
    recalibrate report adapter = match adapter.calibrate report with
      | .ok later => .ok () later
      | .error cause => .error cause adapter := by
  have opened : recalibrate report adapter =
      (match adapter.source.calibration with
      | none => pure ()
      | some layout =>
        match report.applyTo adapter.source.axes layout with
        | .error cause => throw cause
        | .ok axes => set { adapter with source := { adapter.source with axes } } :
        EStateM CalibrationFault Adapter Unit) adapter := rfl
  rw [opened, calibrate]
  cases adapter.source.calibration with
  | none => rfl
  | some layout => cases applied : report.applyTo adapter.source.axes layout <;> simp only [applied] <;> rfl

/-- The store after a call, whether or not it failed. -/
def afterCall (adapter : Adapter) (report : CalibrationReport) : Adapter :=
  match recalibrate report adapter with
  | .ok _ later | .error _ later => later

theorem afterCall_of_ok {adapter later : Adapter} {report : CalibrationReport}
    (accepted : adapter.calibrate report = .ok later) : adapter.afterCall report = later := by
  rw [afterCall, recalibrate_eq, accepted]

theorem afterCall_of_error {adapter : Adapter} {report : CalibrationReport} {cause : CalibrationFault}
    (refused : adapter.calibrate report = .error cause) : adapter.afterCall report = adapter := by
  rw [afterCall, recalibrate_eq, refused]

/-- The store after one call for each report. -/
def afterCalls (adapter : Adapter) (reports : List CalibrationReport) : Adapter :=
  reports.foldl afterCall adapter

end PadBench.Adapter
