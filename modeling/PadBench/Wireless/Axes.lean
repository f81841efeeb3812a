import PadBench.Pad.Calibration

/-!
The nominal axes of the wireless pads, in the raw units of their reports.
-/
namespace PadBench.Wireless.Axes

/-- The same two axes for the left and the right stick. -/
def twoSticks (horizontal vertical : Calibration) : AxisSet :=
  .ofList [(.lx, horizontal), (.ly, vertical), (.rx, horizontal), (.ry, vertical)]

def oneStick (horizontal vertical : Calibration) : AxisSet :=
  .ofList [(.lx, horizontal), (.ly, vertical)]

def withTriggers (axes : AxisSet) (trigger : Calibration) : AxisSet :=
  (axes.set .lm (some trigger)).set .rm (some trigger)

def byteStick : Calibration := .asymmetric 0x80 0x7F 0x80

/-- The vertical axis reads 0 at the top, so up has the longer side. -/
def byteStickVertical : Calibration := (Calibration.asymmetric 0x80 0x80 0x7F).flipped

def byteTrigger : Calibration := .asymmetric 0x00 0xFF 0x00

/-- The sticks and triggers of every PlayStation generation. -/
def playStation : AxisSet := withTriggers (twoSticks byteStick byteStickVertical) byteTrigger

/-- A typical pad with one byte for each axis. -/
def generic : AxisSet := withTriggers (twoSticks byteStick byteStickVertical) byteTrigger

def xbox : AxisSet :=
  withTriggers
    (twoSticks (.asymmetric 0x8000 0x7FFF 0x8000) (Calibration.asymmetric 0x8000 0x8000 0x7FFF).flipped)
    (.asymmetric 0x000 0x3FF 0x000)

def switchSimpleStick : Calibration := (Calibration.symmetric 0x8000 0x5EEC).withDeadzone 0xB00

def switchSimple : AxisSet := twoSticks switchSimpleStick switchSimpleStick.flipped

/-- A stick of the full report before a pad tells its own calibration. -/
def switchFullStick : Calibration := .symmetric 0x800 0x578

def switchFull : AxisSet := twoSticks switchFullStick switchFullStick

/-- The left half held sideways. -/
def leftJoyCon : AxisSet := oneStick switchFullStick.flipped switchFullStick

/-- The right half held sideways. -/
def rightJoyCon : AxisSet := oneStick switchFullStick switchFullStick.flipped

def switchNintendo64 : AxisSet := oneStick switchFullStick switchFullStick

/-- Pads of other makers, with 16-bit sticks. -/
def switchThirdParty : AxisSet :=
  oneStick (.asymmetric 0x8000 0x7FFF 0x8000) (.asymmetric 0x8000 0x8000 0x7FFF)

def wiiClassic : AxisSet :=
  withTriggers
    (.ofList [(.lx, .symmetric 0x20 0x1B), (.ly, .symmetric 0x20 0x1B),
      (.rx, .symmetric 0x10 0x0D), (.ry, .symmetric 0x10 0x0D)])
    (.asymmetric 0x02 0x1D 0x00)

/-- The classic extension in its 8-bit format. -/
def wiiClassicByte : AxisSet :=
  withTriggers (twoSticks (.symmetric 0x80 0x66) (.symmetric 0x80 0x66)) (.asymmetric 0x16 0xDA 0x00)

def wiiUPro : AxisSet := twoSticks (.symmetric 0x800 0x44C) (.symmetric 0x800 0x44C)

end PadBench.Wireless.Axes
