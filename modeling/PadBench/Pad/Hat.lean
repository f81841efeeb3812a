import PadBench.Pad.Button

/-!
The hat switch: a 4-bit code for one of eight directions, folded into the D-pad.
-/
namespace PadBench.Hat

/-- The D-pad positions of the eight directions, clockwise from up; any larger number is released. -/
def dpad : Nat → UInt32
  | 0 => PadButton.ldUp.mask
  | 1 => PadButton.ldUp.mask ||| PadButton.ldRight.mask
  | 2 => PadButton.ldRight.mask
  | 3 => PadButton.ldDown.mask ||| PadButton.ldRight.mask
  | 4 => PadButton.ldDown.mask
  | 5 => PadButton.ldDown.mask ||| PadButton.ldLeft.mask
  | 6 => PadButton.ldLeft.mask
  | 7 => PadButton.ldUp.mask ||| PadButton.ldLeft.mask
  | _ => 0

/-- How many codes a hat field has. -/
def codes : Nat := 16

/-- How a report numbers the directions: `up` is the code of up, and the others follow it around the
sixteen codes. -/
structure Encoding where
  up : UInt8
  deriving DecidableEq, Repr

namespace Encoding

/-- Up is 0; 8 to 15 are released. -/
def zeroBased : Encoding := ⟨0⟩

/-- Up is 1; 0 and 9 to 15 are released. -/
def oneBased : Encoding := ⟨1⟩

/-- The D-pad bits of a code, of which only the low nibble counts. -/
def decode (encoding : Encoding) (code : UInt8) : UInt32 := dpad ((code - encoding.up) &&& 0xF).toNat

/-- The codes without a direction. -/
def released (encoding : Encoding) : List Nat :=
  (List.range codes).filter fun code => encoding.decode (UInt8.ofNat code) == 0

end Encoding

end PadBench.Hat
