import PadBench.Pad.Calibration

/-!
The axes of the consoles, in the units of their wire.
-/
namespace PadBench.Wired.Axes

/-- The storage of a signed byte. -/
def signedByte (calibration : Calibration) : Calibration := calibration.withRange (-128) 127

/-- The storage of an unsigned byte. -/
def unsignedByte (calibration : Calibration) : Calibration := calibration.withRange 0 255

def gameCubeStick : Calibration := signedByte (.symmetric 0x80 0x64)

/-- The C stick travels less. -/
def gameCubeRightStick : Calibration := signedByte (.symmetric 0x80 0x5C)

def gameCubeTrigger : Calibration := unsignedByte (.asymmetric 0x20 0xD0 0x00)

def gameCube : AxisSet :=
  .ofList [(.lx, gameCubeStick), (.ly, gameCubeStick), (.rx, gameCubeRightStick),
    (.ry, gameCubeRightStick), (.lm, gameCubeTrigger), (.rm, gameCubeTrigger)]

def nintendo64Stick : Calibration := signedByte (.symmetric 0x00 0x54)

def nintendo64 : AxisSet := .ofList [(.lx, nintendo64Stick), (.ly, nintendo64Stick)]

def saturnStick : Calibration := signedByte (.asymmetric 0x80 0x7F 0x80)

def saturnTrigger : Calibration := unsignedByte (.asymmetric 0x00 0xFF 0x00)

/-- The 3D pad in its analog mode. -/
def saturn : AxisSet :=
  .ofList [(.lx, saturnStick), (.ly, saturnStick), (.lm, saturnTrigger), (.rm, saturnTrigger)]

end PadBench.Wired.Axes
