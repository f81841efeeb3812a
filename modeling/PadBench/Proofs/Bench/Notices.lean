import PadBench.Bench.Session
import PadBench.Proofs.Bench.Course

/-!
What a session tells besides its frames.

* `quiet_exchange`: an exchange with an adapter tells nothing;
* `Settles`: a dialogue that tells no result, with what its value has to do with the axes then in force;
* `settles_setUp`: before the scenarios nothing is told but calibrations, and the last one is in force.
-/
namespace PadBench

namespace Dialogue

variable {α β σ : Type}

/-- From the given axes on, the dialogue tells no result, and a value it ends with fits the axes that are
then in force. -/
def Settles (fits : α → AxisSet → Prop) : Dialogue α → AxisSet → Prop
  | done value, axes => fits value axes
  | stop _, _ => True
  | send _ next, axes => ∀ failure, (next failure).Settles fits axes
  | receive next, axes => ∀ event, (next event).Settles fits axes
  | notify (.calibrated axes) next, _ => next.Settles fits axes
  | notify (.judged _) _, _ => False

/-- A quiet dialogue leaves the axes as they are for the one after it. -/
theorem settles_of_quiet {fits : β → AxisSet → Prop} {dialogue : Dialogue α} {next : α → Dialogue β}
    {axes : AxisSet} (quiet : dialogue.Quiet) (rest : ∀ value, (next value).Settles fits axes) :
    (dialogue.bind next).Settles fits axes := by
  induction dialogue with
  | done value => exact rest value
  | stop fault => trivial
  | send frame later ih => exact fun failure => ih failure (quiet failure)
  | receive later ih => exact fun event => ih event (quiet event)
  | notify notice later ih => exact quiet.elim

/-- The second dialogue starts from the axes that the first one leaves in force. -/
theorem settles_bind {fits : β → AxisSet → Prop} {between : α → AxisSet → Prop} {dialogue : Dialogue α}
    {next : α → Dialogue β} {axes : AxisSet} (first : dialogue.Settles between axes)
    (rest : ∀ value axes, between value axes → (next value).Settles fits axes) :
    (dialogue.bind next).Settles fits axes := by
  induction dialogue generalizing axes with
  | done value => exact rest value axes first
  | stop fault => trivial
  | send frame later ih => exact fun failure => ih failure (first failure)
  | receive later ih => exact fun event => ih event (first event)
  | notify notice later ih =>
    cases notice with
    | calibrated axes => exact ih first
    | judged result => exact first.elim

/-- Along every path of a dialogue that settles there is no result, and its value fits the axes in force at
the end. -/
theorem run_of_settles (link : Link σ) {fits : α → AxisSet → Prop} {dialogue : Dialogue α} {axes : AxisSet}
    (settles : dialogue.Settles fits axes) (state : σ) :
    let run := dialogue.run link state
    run.results = [] ∧ ∀ value, run.outcome = some (.ok value) → fits value (run.axes axes) := by
  induction dialogue generalizing axes state with
  | done value =>
    refine ⟨rfl, fun other same => ?_⟩
    cases same
    exact settles
  | stop fault => exact ⟨rfl, fun _ failed => by cases failed⟩
  | send frame later ih => exact ih _ (settles _) _
  | receive later ih =>
    rw [run]
    cases link.read state with
    | none => exact ⟨rfl, fun _ ended => by cases ended⟩
    | some arrival => exact ih _ (settles _) _
  | notify notice later ih =>
    cases notice with
    | calibrated axes => exact ih settles state
    | judged result => exact settles.elim

end Dialogue

namespace Client

variable (client : Client)

theorem quiet_exchange (command : Command) (isEnough : Observation → Bool) :
    (client.exchange command isEnough).Quiet := by
  rw [exchange]
  cases command.encode client.handle with
  | error cause => trivial
  | ok frame =>
    intro failure
    cases failure with
    | none => exact Dialogue.quiet_of_listens (client.listens_collect command isEnough _ _)
    | some reason => trivial

theorem quiet_calibrate (replies : List (List UInt8)) : (client.calibrate replies).Quiet := by
  induction replies with
  | nil => trivial
  | cons reply replies ih =>
    cases replies with
    | nil => exact client.quiet_exchange _ _
    | cons second replies =>
      rw [calibrate]
      · refine Dialogue.quiet_bind (client.quiet_exchange _ _) fun seen => ?_
        split
        · trivial
        · exact ih
      · simp

end Client

namespace Session

/-- The axes in force are those of the adapter. -/
def HasAxes (adapter : Adapter) (axes : AxisSet) : Prop := axes = adapter.source.axes

section

variable (session : Session) (client : Client) (adapter : Adapter)

/-- What follows an adapter starts from its axes. -/
theorem settles_after {dialogue : Dialogue Adapter} {next : Adapter → Dialogue Adapter} {axes : AxisSet}
    (first : dialogue.Settles HasAxes axes)
    (rest : ∀ adapter, (next adapter).Settles HasAxes adapter.source.axes) :
    (dialogue.bind next).Settles HasAxes axes := by
  refine Dialogue.settles_bind first ?_
  rintro adapter _ rfl
  exact rest adapter

theorem settles_adopt (seen : Observation) : (adopt adapter seen).Settles HasAxes adapter.source.axes := by
  rw [adopt]
  cases seen.calibration with
  | none => rfl
  | some report =>
    cases applied : adapter.calibrate report with
    | error cause => simp only [applied]; trivial
    | ok next => simp only [applied]; rfl

theorem settles_describePad :
    (session.describePad client adapter).Settles HasAxes adapter.source.axes := by
  rw [describePad]
  split
  · exact Dialogue.settles_of_quiet (client.quiet_exchange _ _) (settles_adopt adapter)
  · rfl

theorem settles_handOverCalibration :
    (session.handOverCalibration client adapter).Settles HasAxes adapter.source.axes := by
  rw [handOverCalibration]
  split
  · exact Dialogue.settles_of_quiet (client.quiet_calibrate _) (settles_adopt adapter)
  · rfl

theorem settles_warmUp (report : List UInt8) (count : Nat) :
    (warmUp client report count adapter).Settles HasAxes adapter.source.axes := by
  induction count generalizing adapter with
  | zero => rfl
  | succ count ih =>
    refine Dialogue.settles_of_quiet (client.quiet_exchange _ _) fun seen => ?_
    exact settles_after (settles_adopt adapter seen) ih

/-- Before the scenarios there is no result, and the adapter they are made for has the axes in force. -/
theorem settles_setUp : (session.setUp client).Settles HasAxes session.adapter.source.axes := by
  refine Dialogue.settles_of_quiet (Dialogue.quiet_ofExcept _) fun name => ?_
  refine Dialogue.settles_of_quiet (client.quiet_exchange _ _) fun _ => ?_
  refine Dialogue.settles_of_quiet (client.quiet_exchange _ _) fun _ => ?_
  refine Dialogue.settles_of_quiet (client.quiet_exchange _ _) fun _ => ?_
  refine Dialogue.settles_of_quiet (client.quiet_exchange _ _) fun seen => ?_
  refine settles_after (settles_adopt session.adapter seen) fun named => ?_
  refine settles_after (session.settles_describePad client named) fun described => ?_
  refine settles_after (session.settles_handOverCalibration client described) fun resting => ?_
  refine Dialogue.settles_of_quiet (Dialogue.quiet_ofExcept _) fun report => ?_
  exact settles_warmUp client resting report _

end

end Session

end PadBench
