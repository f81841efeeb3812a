import PadBench.Proofs.Adapter.Store

/-!
A pad may report its calibration more than once.

The first report moves the neutrals that the next one is judged around.

* `applyTo_again`: axes that a report has been taken over on accept it again and stay as they are;
* `afterCall_again`, `afterCalls_replicate`: so a store is after any number of calls as after the first;
* `recalibrate_twice`: the second call ends as the first one did.
-/
namespace PadBench

/-- A sound calibration is centered on its own neutral. -/
theorem Calibration.faultAround?_self {calibration : Calibration} (sound : calibration.fault? = none)
    (numbers : calibration.IsSigned32) (fit : calibration.SumsFit calibration.neutral) :
    calibration.faultAround? calibration.neutral = none := by
  have travels := travels_of_sound sound
  have near : calibration.IsNear calibration.neutral := by
    rw [IsNear]
    omega
  exact faultAround?_eq_none_iff.mpr ⟨sound, isCentered_of_near fit near sound numbers.neutral⟩

/-- Otherwise it need not be: around its own neutral this one leads out of the range. -/
example : (Calibration.asymmetric 2147480000 2147480000 0).faultAround? 2048 = none ∧
    (Calibration.asymmetric 2147480000 2147480000 0).faultAround? 2147480000 =
      some (.neutral 2147480000 2147480000 (-7296) 2147480000) := by
  decide

namespace CalibrationReport

variable {report : CalibrationReport} {defaults result : AxisSet} {layout : CalibrationLayout}
  {index : Nat} {axis : Axis} {default record : Calibration}

/-- On axes that a report has been taken over on, an entry replaces a calibration by itself: it is the one
that the entry has put there. -/
theorem replacement?_again (applied : report.applyTo defaults layout = .ok result)
    (found : report.replacement? result layout index = some (axis, default, record)) :
    default = record ∧ record.fault? = none ∧
      ∃ first, report.replacement? defaults layout index = some (axis, first, record) := by
  obtain ⟨described, present, reported, listed, used, rfl⟩ := replacement?_eq_some_iff.mp found
  have kept := applyTo_present applied axis
  rw [present, Option.isSome_some] at kept
  obtain ⟨first, had⟩ := Option.isSome_iff_exists.mp kept.symm
  have earlier : report.replacement? defaults layout index = some (axis, first, reported.adapting first) :=
    replacement?_eq_some_iff.mpr ⟨described, had, reported, listed, used, rfl⟩
  obtain ⟨_, sound, placed⟩ := applyTo_eq_ok_iff.mp applied
  have within := List.mem_range.mpr (CalibrationLayout.stick_of_axis? described).1
  have here : ((List.range sticks).foldl (report.place defaults layout) defaults).get axis =
      some (reported.adapting first) := get_foldl_place earlier (.inr within)
  rw [placed, present] at here
  cases here
  exact ⟨rfl, (Calibration.faultAround?_eq_none_iff.mp (sound index axis first _ earlier)).1, first, earlier⟩

/-- A report has nothing more to change on axes that it has been taken over on. -/
theorem place_again (applied : report.applyTo defaults layout = .ok result) :
    (List.range sticks).foldl (report.place result layout) result = result := by
  refine PerAxis.ext_get fun axis => ?_
  by_cases covered : ∃ index default record,
      report.replacement? result layout index = some (axis, default, record)
  · obtain ⟨index, default, record, found⟩ := covered
    obtain ⟨described, present, _⟩ := replacement?_eq_some_iff.mp found
    have within := List.mem_range.mpr (CalibrationLayout.stick_of_axis? described).1
    rw [get_foldl_place found (.inr within), present, (replacement?_again applied found).1]
  · exact get_foldl_place_of_uncovered fun index default record found =>
      covered ⟨index, default, record, found⟩

theorem applyTo_again (applied : report.applyTo defaults layout = .ok result)
    (fit : report.Puts defaults layout fun record _ => record.SumsFit record.neutral) :
    report.applyTo result layout = .ok result := by
  refine applyTo_eq_ok_iff.mpr ⟨(applyTo_eq_ok_iff.mp applied).1, ?_, place_again applied⟩
  intro index axis default record found
  obtain ⟨rfl, sound, first, earlier⟩ := replacement?_again applied found
  exact Calibration.faultAround?_self sound (isSigned32_of_replacement? found)
    (fit index axis first default earlier)

end CalibrationReport

namespace Adapter

variable {adapter later : Adapter} {report : CalibrationReport}

/-- No travel that the report puts on an axis leads out of the range around the neutral that it puts there. -/
def ReachFits (adapter : Adapter) (report : CalibrationReport) : Prop :=
  adapter.Puts report fun record _ => record.SumsFit record.neutral

theorem calibrate_again (fit : adapter.ReachFits report) (accepted : adapter.calibrate report = .ok later) :
    later.calibrate report = .ok later := by
  obtain ⟨fixed, rfl⟩ | ⟨layout, axes, live, applied, rfl⟩ := calibrate_eq accepted
  · exact accepted
  · simp only [calibrate, live, CalibrationReport.applyTo_again applied (fit layout live)]
    rfl

/-- If the report is accepted once more, then with nothing changed. -/
theorem eq_of_calibrate_again {last : Adapter} (accepted : adapter.calibrate report = .ok later)
    (again : later.calibrate report = .ok last) : last = later := by
  obtain ⟨fixed, rfl⟩ | ⟨layout, axes, live, applied, rfl⟩ := calibrate_eq accepted
  · rw [calibrate, fixed] at again
    cases again
    rfl
  · obtain ⟨fixed, rfl⟩ | ⟨layout', axes', live', applied', rfl⟩ := calibrate_eq again
    · rfl
    · have same : layout' = layout := Option.some.inj (live'.symm.trans live)
      obtain ⟨_, _, rfl⟩ := CalibrationReport.applyTo_eq_ok_iff.mp applied'
      simp only [same, CalibrationReport.place_again applied]

/-- A second call changes nothing, whether it is accepted or refused. -/
theorem afterCall_again (adapter : Adapter) (report : CalibrationReport) :
    (adapter.afterCall report).afterCall report = adapter.afterCall report := by
  cases outcome : adapter.calibrate report with
  | error cause => rw [afterCall_of_error outcome, afterCall_of_error outcome]
  | ok later =>
    rw [afterCall_of_ok outcome]
    cases second : later.calibrate report with
    | error cause => rw [afterCall_of_error second]
    | ok last => rw [afterCall_of_ok second, eq_of_calibrate_again outcome second]

theorem afterCalls_replicate (adapter : Adapter) (report : CalibrationReport) (more : Nat) :
    adapter.afterCalls (List.replicate (more + 1) report) = adapter.afterCall report := by
  induction more with
  | zero => rfl
  | succ more ih => rw [List.replicate_succ', afterCalls_concat, ih, afterCall_again]

/-- A report that was taken over is taken over again and changes nothing, if no travel it reports leads out of the
range around the neutral it reports; one that was refused is refused again for the same reason, and in all cases
any number of calls leaves what the first one left. -/
theorem recalibrate_twice (adapter : Adapter) (report : CalibrationReport) :
    (adapter.ReachFits report →
      ∀ later, recalibrate report adapter = .ok () later → recalibrate report later = .ok () later) ∧
    (∀ cause later, recalibrate report adapter = .error cause later →
      later = adapter ∧ recalibrate report later = .error cause later) ∧
    ∀ more, adapter.afterCalls (List.replicate (more + 1) report) = adapter.afterCall report := by
  refine ⟨?_, ?_, adapter.afterCalls_replicate report⟩
  · intro fit later accepted
    rw [recalibrate_eq] at accepted ⊢
    cases outcome : adapter.calibrate report with
    | error cause =>
      rw [outcome] at accepted
      cases accepted
    | ok first =>
      rw [outcome] at accepted
      cases accepted
      rw [calibrate_again fit outcome]
  · intro cause later refused
    have same : later = adapter := by
      rw [recalibrate_eq] at refused
      split at refused
      · cases refused
      · cases refused
        rfl
    rw [same] at refused ⊢
    exact ⟨rfl, refused⟩

/-- The neutral that the first call puts in place lies off the center that it was judged around. -/
theorem recalibrate_twice_moved :
    let adapter : Adapter := .withDefaults WirelessPad.switchPro.profile Console.gameCube.profile
    let report : CalibrationReport := ⟨[3448], [1400], [1400], [0]⟩
    let later := adapter.afterCall report
    adapter.ReachFits report ∧ recalibrate report adapter = .ok () later ∧
      later.source.axes ≠ adapter.source.axes ∧ recalibrate report later = .ok () later := by
  intro adapter report later
  have accepted : recalibrate report adapter = .ok () later := rfl
  have fit : adapter.ReachFits report := by
    intro layout live index axis default record found
    obtain ⟨_, _, reported, listed, _, rfl⟩ := CalibrationReport.replacement?_eq_some_iff.mp found
    cases index with
    | zero =>
      cases listed
      exact ⟨show Signed32.least ≤ (3448 - 1400 : Int) by decide,
        show (3448 + 1400 : Int) ≤ Signed32.greatest by decide⟩
    | succ index => cases listed
  exact ⟨fit, accepted, by decide, (recalibrate_twice adapter report).1 fit later accepted⟩

end Adapter

end PadBench
