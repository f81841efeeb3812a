import PadBench.Adapter.Model
import PadBench.Arith.ByteOrder

/-!
The reports a wireless pad sends, built from the state of the pad.

* PlayStation: `A1 01`, the sticks as one byte each, a word of three bytes whose low nibble is the hat
  and whose rest are the buttons, the triggers as one byte each.
* Switch, full: `A1 30` and a timer, a word of four bytes with the buttons above a status byte, each
  stick as two 12-bit numbers in three bytes, padding.
* Generic: `A1 01`, the left stick as one byte each, the hat, a word of four bytes with the buttons.

All words have their low byte first. A value that its field cannot hold is sent as the nearest one the
field can.
-/
namespace PadBench

inductive ReportFormat where
  | playStation | switchFull | generic
  deriving DecidableEq, Repr

/-- The format of the pads whose reports can be built. -/
def WirelessPad.reportFormat? : WirelessPad → Option ReportFormat
  | .ps4 | .ps5 => some .playStation
  | .switchPro => some .switchFull
  | .generic => some .generic
  | _ => none

namespace Report

/-- The transaction header of an input report. -/
def header : UInt8 := 0xA1

def timer : UInt8 := 0x01

/-- The status byte of a Switch report: battery and connection. -/
def status : UInt32 := 0x80

/-- The hat code of a report whose state has none: released. -/
def releasedHat : ReportFormat → UInt8
  | .playStation => 8
  | _ => 0

/-- The axes the format has a field for. -/
def axes : ReportFormat → List Axis
  | .playStation => Axis.all
  | .switchFull => [.lx, .ly, .rx, .ry]
  | .generic => [.lx, .ly]

def byteField (value : Int) : UInt8 := UInt8.ofNat (min (max value 0).toNat 0xFF)

/-- A value of a stick as a 12-bit number. -/
def stickField (value : Int) : Nat := min (max value 0).toNat 0xFFF

/-- The two axes of a stick in three bytes, the horizontal one in the low bits. -/
def stick (horizontal vertical : Int) : List UInt8 :=
  ByteOrder.field 3 (stickField horizontal ||| stickField vertical <<< 12)

/-- The value sent for an axis: that of the state, else the pad's nominal neutral. -/
def axisValue (pad : WirelessPad) (state : PadState) (axis : Axis) : Int :=
  (state.axes.get axis).getD (((pad.axes.get axis).map Calibration.neutral).getD 0)

def hatNibble (format : ReportFormat) (state : PadState) : UInt8 :=
  state.hat.getD (releasedHat format) &&& 0xF

/-- No axis outside the format's fields is displaced from the pad's nominal neutral. -/
def isExpressible (pad : WirelessPad) (format : ReportFormat) (state : PadState) : Bool :=
  Axis.all.all fun axis =>
    (axes format).contains axis ||
      match state.axes.get axis with
      | none => true
      | some value => (pad.axes.get axis).map Calibration.neutral == some value

def playStation (value : Axis → Int) (hat : UInt8) (buttons : UInt32) : List UInt8 :=
  [header, 0x01, byteField (value .lx), byteField (value .ly), byteField (value .rx),
    byteField (value .ry)] ++
  ByteOrder.field 3 ((buttons &&& 0xFFFFFFF0) ||| hat.toUInt32).toNat ++
  [byteField (value .lm), byteField (value .rm)]

/-- The zero bytes after the sticks of a Switch report. -/
def padding : Nat := 37

def switchFull (value : Axis → Int) (buttons : UInt32) : List UInt8 :=
  [header, 0x30, timer] ++
  ByteOrder.field 4 ((buttons &&& 0xFFFFFF00) ||| status).toNat ++
  stick (value .lx) (value .ly) ++ stick (value .rx) (value .ry) ++ List.replicate padding 0

def generic (value : Axis → Int) (hat : UInt8) (buttons : UInt32) : List UInt8 :=
  [header, 0x01, byteField (value .lx), byteField (value .ly), hat] ++
  ByteOrder.field 4 buttons.toNat

/-- The report of a state. There is none for a pad without a known format, nor in the generic format
for a state that displaces an axis it has no field for. -/
def encode? (pad : WirelessPad) (state : PadState) : Option (List UInt8) := do
  let format ← pad.reportFormat?
  let value := axisValue pad state
  let hat := hatNibble format state
  match format with
  | .playStation => some (playStation value hat state.buttons)
  | .switchFull => some (switchFull value state.buttons)
  | .generic =>
    if isExpressible pad .generic state then some (generic value hat state.buttons) else none

end Report

end PadBench
