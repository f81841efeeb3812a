import PadBench.Proofs.Report.Fidelity

/-!
States that a report cannot tell.

A state is refused if it displaces an axis that the format has no field for, but not by the Switch format:
there such an axis is left out.

* `expressible_iff`: a report can tell a state that displaces no axis without a field;
* `encode?_onFields`: a report is that of the state without its axes that have no field;
* `refused_iff_displaced`: the states without a report.
-/
namespace PadBench.Report

variable {pad : WirelessPad} {format : ReportFormat}

/-- The state gives the axis another value than the pad's neutral, or gives an axis that the pad lacks. -/
def IsDisplaced (pad : WirelessPad) (state : PadState) (axis : Axis) : Prop :=
  ∃ value, state.axes.get axis = some value ∧ (pad.axes.get axis).map Calibration.neutral ≠ some value

/-- The state without the axes that the format has no field for. -/
def onFields (format : ReportFormat) (state : PadState) : PadState :=
  { state with axes := .ofFn fun axis => if axis ∈ axes format then state.axes.get axis else none }

theorem expressible_iff (state : PadState) :
    Expressible pad format state ↔ ¬ ∃ axis, axis ∉ axes format ∧ IsDisplaced pad state axis := by
  simp only [Expressible, IsDisplaced, not_exists, not_and, Decidable.not_not]

theorem get_onFields (state : PadState) (axis : Axis) :
    (onFields format state).axes.get axis = if axis ∈ axes format then state.axes.get axis else none :=
  PerAxis.get_ofFn _ _

theorem axisValue_onFields (state : PadState) {axis : Axis} (field : axis ∈ axes format) :
    axisValue pad (onFields format state) axis = axisValue pad state axis := by
  rw [axisValue, axisValue, get_onFields, if_pos field]

theorem onFields_expressible (state : PadState) : Expressible pad format (onFields format state) := by
  intro axis outside value given
  rw [get_onFields, if_neg outside] at given
  cases given

/-- What is sent for a state says nothing of the axes without a field. -/
theorem encode?_onFields (known : pad.reportFormat? = some format) {state : PadState} {report : List UInt8}
    (sent : encode? pad state = some report) : encode? pad (onFields format state) = some report := by
  have told {axis : Axis} (field : axis ∈ axes format) :
      axisValue pad (onFields format state) axis = axisValue pad state axis := axisValue_onFields state field
  cases format with
  | playStation =>
    rw [encode?_playStation known] at sent ⊢
    rw [← sent, playStation, playStation, told (by decide), told (by decide), told (by decide),
      told (by decide), told (by decide), told (by decide)]
    rfl
  | switchFull =>
    rw [encode?_switchFull known] at sent ⊢
    rw [← sent, switchFull, switchFull, told (by decide), told (by decide), told (by decide),
      told (by decide)]
    rfl
  | generic =>
    rw [encode?_generic known] at sent ⊢
    split at sent
    · rw [if_pos ((isExpressible_iff pad .generic _).mpr (onFields_expressible state)), ← sent, generic,
        generic, told (by decide), told (by decide)]
      rfl
    · cases sent

/-- A state has no report exactly if it displaces an axis that the format has no field for and the format
is not the Switch one. What is sent is the report of the state without such axes, so a Switch report leaves
out a displaced trigger. -/
theorem refused_iff_displaced (known : pad.reportFormat? = some format) (state : PadState) :
    (encode? pad state = none ↔
      format ≠ .switchFull ∧ ∃ axis, axis ∉ axes format ∧ IsDisplaced pad state axis) ∧
    ∀ report, encode? pad state = some report → encode? pad (onFields format state) = some report := by
  refine ⟨?_, fun _ sent => encode?_onFields known sent⟩
  rw [encode?_eq_none known]
  have told := isExpressible_iff pad .generic state
  rw [expressible_iff, ← Bool.not_eq_false, not_iff_not] at told
  cases format with
  | playStation =>
    constructor
    · rintro ⟨other, _⟩
      cases other
    · rintro ⟨_, axis, outside, _⟩
      exact absurd (Axis.mem_all axis) outside
  | switchFull =>
    constructor
    · rintro ⟨other, _⟩
      cases other
    · rintro ⟨other, _⟩
      exact absurd rfl other
  | generic =>
    rw [told]
    exact and_congr_left' ⟨nofun, fun _ => rfl⟩

/-- The generic pad has a right stick that its report does not tell. -/
theorem refused_iff_displaced_generic : WirelessPad.generic.reportFormat? = some .generic ∧
    encode? .generic ((PadState.neutral WirelessPad.generic.axes).withAxis .rx 255) = none := by
  have known : WirelessPad.generic.reportFormat? = some .generic := rfl
  exact ⟨known, (refused_iff_displaced known _).1.mpr ⟨nofun, .rx, by decide, 255, rfl, by decide⟩⟩

/-- A trigger held down is not in the report of a Switch pad, which is that of the pad at rest. -/
theorem displaced_trigger_is_left_out :
    Axis.lm ∉ axes .switchFull ∧ IsDisplaced .switchPro (PadState.empty.withAxis .lm 255) .lm ∧
      encode? .switchPro (PadState.empty.withAxis .lm 255) = encode? .switchPro .empty ∧
      encode? .switchPro (PadState.empty.withAxis .lm 255) ≠ none :=
  ⟨by decide, ⟨255, rfl, by decide⟩, rfl, nofun⟩

end PadBench.Report
