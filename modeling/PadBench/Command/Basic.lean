import PadBench.Arith.ByteOrder
import PadBench.Text.Quoted
import PadBench.Text.Utf8

/-!
The commands an adapter under test obeys, and why one cannot be written or read.

A frame is the opcode, the handle of the emulated device, the length of the payload as two bytes, low
byte first, and the payload.
-/
namespace PadBench

inductive Command where
  | connect (ble : Bool)
  | disconnect
  /-- The name the device advertises. -/
  | name (text : String)
  | hidDescriptor (descriptor : List UInt8)
  /-- An input report, from its transaction header on. -/
  | hidReport (report : List UInt8)
  | bridgeReport (id : UInt8) (report : List UInt8)
  | globalConfig (config : List UInt8)
  | outputConfig (index : UInt8) (config : List UInt8)
  | inputConfig (index : UInt8) (config : List UInt8)
  | systemId (id : UInt8)
  | vidPid (vid pid : UInt16)
  | coverageDump
  deriving DecidableEq, Repr

namespace Command

def opcode : Command → UInt8
  | .connect _ => 0x01
  | .disconnect => 0x02
  | .name _ => 0x03
  | .hidDescriptor _ => 0x04
  | .hidReport _ => 0x05
  | .bridgeReport .. => 0x06
  | .globalConfig _ => 0x07
  | .outputConfig .. => 0x08
  | .inputConfig .. => 0x09
  | .systemId _ => 0x0A
  | .vidPid .. => 0x0B
  | .coverageDump => 0x0C

/-- Opcode, handle and length. -/
def headerLength : Nat := 4

/-- The zero bytes before the report of a HID report payload. -/
def reportOffset : Nat := 9

/-- The longest payload the length field can tell. -/
def longestPayload : Nat := 65535

inductive Fault where
  | nulInName (text : String)
  | payloadTooLong (length : Nat)
  | frameTooShort (length : Nat)
  | lengthDiffers (declared actual : Nat)
  | payloadLength (opcode : UInt8) (length : Nat)
  | nameUnterminated
  | nameNotUtf8 (cause : Text.Utf8.Fault)
  | unknownOpcode (opcode : UInt8)
  deriving DecidableEq, Repr

/-- An opcode as messages show it. -/
def opcodeText (opcode : UInt8) : String := "0x" ++ Text.upperHex 2 opcode.toNat

def Fault.message : Fault → String
  | .nulInName text => "Device name " ++ Text.quoted text ++ " contains a NUL byte"
  | .payloadTooLong length => s!"Payload of {length} bytes exceeds {longestPayload} byte limit"
  | .frameTooShort length => s!"Frame too short: {length} bytes"
  | .lengthDiffers declared actual =>
    s!"Length field says {declared} bytes, frame carries {actual}"
  | .payloadLength opcode length =>
    s!"Invalid payload length {length} for opcode " ++ opcodeText opcode
  | .nameUnterminated => "Device name is not NUL-terminated"
  | .nameNotUtf8 cause => "Device name is not UTF-8: " ++ cause.message
  | .unknownOpcode opcode => "Unknown opcode: " ++ opcodeText opcode

end Command

end PadBench
