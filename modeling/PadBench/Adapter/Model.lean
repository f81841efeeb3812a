import PadBench.Pad.Response
import PadBench.Wired.Console
import PadBench.Wireless.Pad

/-!
What an adapter must make of one report: its digital stages, its axes, and how it takes over the
calibration a pad reports.
-/
namespace PadBench

/-- The fields of one wireless report, as far as the pad has them. -/
structure PadState where
  buttons : UInt32
  hat : Option UInt8
  axes : PerAxis (Option Int)
  deriving DecidableEq, Repr

namespace PadState

def empty : PadState := ⟨0, none, .const none⟩

/-- Nothing pressed, every axis of the pad at rest. -/
def neutral (axes : AxisSet) : PadState :=
  ⟨0, none, axes.map fun calibration => calibration.map Calibration.neutral⟩

def withButtons (state : PadState) (buttons : UInt32) : PadState := { state with buttons }

def withHat (state : PadState) (code : UInt8) : PadState := { state with hat := some code }

def withAxis (state : PadState) (axis : Axis) (value : Int) : PadState :=
  { state with axes := state.axes.set axis (some value) }

end PadState

/-- What the stages of an adapter must show for one report. The wired word has its low-active bits
low while pressed. -/
structure Prediction where
  generic : UInt32
  wired : UInt32
  axes : PerAxis (Option AxisSample)
  deriving DecidableEq, Repr

/-- An adapter between one pad and one console. -/
structure Adapter where
  source : SourceProfile
  wired : WiredProfile
  fraction : BinaryFloat

namespace Adapter

/-- The greatest share of the travel that may be dead. -/
def greatestFraction : BinaryFloat := .ofDecimal .single false 499 (-3)

/-- The adapter whose deadzone share is as near to `fraction` as an adapter allows. -/
def withFraction (source : SourceProfile) (wired : WiredProfile) (fraction : BinaryFloat) : Adapter :=
  ⟨source, wired, fraction.clamp (.ofInt .single 0) greatestFraction⟩

def withDefaults (source : SourceProfile) (wired : WiredProfile) : Adapter :=
  withFraction source wired Response.defaultFraction

/-- The D-pad bits of the hat, for a pad that has one. -/
def hatBits (adapter : Adapter) (state : PadState) : UInt32 :=
  match adapter.source.hat, state.hat with
  | some encoding, some code => encoding.decode code
  | _, _ => 0

def genericButtons (adapter : Adapter) (state : PadState) : UInt32 :=
  adapter.source.buttons.generic state.buttons ||| adapter.hatBits state

def wiredButtons (adapter : Adapter) (state : PadState) : UInt32 :=
  adapter.wired.buttons.drive (adapter.genericButtons state) ^^^ adapter.wired.idle

/-- The stages of an axis that pad, console and report all have. -/
def axisSample (adapter : Adapter) (state : PadState) (axis : Axis) : Option AxisSample := do
  let source ← adapter.source.axes.get axis
  let wired ← adapter.wired.axes.get axis
  let raw ← state.axes.get axis
  some (Response.sample axis source wired adapter.fraction raw)

def predict (adapter : Adapter) (state : PadState) : Prediction :=
  ⟨adapter.genericButtons state, adapter.wiredButtons state, .ofFn (adapter.axisSample state)⟩

/-- The adapter after a calibration report, which a pad that does not calibrate itself never changes. -/
def calibrate (adapter : Adapter) (report : CalibrationReport) : Except CalibrationFault Adapter :=
  match adapter.source.calibration with
  | none => .ok adapter
  | some layout =>
    (report.applyTo adapter.source.axes layout).map fun axes =>
      { adapter with source := { adapter.source with axes } }

end Adapter

end PadBench
