import PadBench.Report.Encoding

/-!
What a pad tells of itself before it sends input: its name, the descriptor of a generic pad, and the
replies in which a Switch pad hands over its factory calibration.
-/
namespace PadBench.Report

/-- The name a pad advertises, by which an adapter recognises it. -/
def deviceName? : WirelessPad → Option String
  | .ps4 | .ps5 => some "Wireless Controller"
  | .switchPro => some "Pro Controller"
  | .generic => some "HID Generic"
  | _ => none

/-- The descriptor of the generic pad: two axes, a hat with codes 1 to 8 padded to a byte, and 32
buttons. -/
def genericDescriptor : List UInt8 := [
  0x05, 0x01, 0x09, 0x05, 0xA1, 0x01, 0x09, 0x01, 0xA1, 0x00, 0x09, 0x30, 0x09, 0x31, 0x15, 0x00,
  0x26, 0xFF, 0x00, 0x66, 0x00, 0x00, 0x95, 0x02, 0x75, 0x08, 0x81, 0x02, 0x09, 0x39, 0x15, 0x01,
  0x25, 0x08, 0x75, 0x04, 0x95, 0x01, 0x81, 0x42, 0x75, 0x04, 0x95, 0x01, 0x81, 0x03, 0x05, 0x09,
  0x19, 0x01, 0x29, 0x20, 0x15, 0x00, 0x25, 0x01, 0x66, 0x00, 0x00, 0x95, 0x20, 0x75, 0x01, 0x81,
  0x02, 0xC0, 0xC0]

/-- A read of the pad's flash memory and what the memory holds there. -/
structure FlashRead where
  address : Nat
  content : List UInt8
  deriving DecidableEq, Repr

/-- The reads of a host that loads the stick calibration: the factory sticks, the parameters of the
sticks, those of the right stick, and the user's calibration, which is unset. -/
def calibrationReads : List FlashRead := [
  ⟨0x603D, [0x67, 0x25, 0x58, 0xC9, 0x27, 0x85, 0x45, 0xD5, 0x58] ++ List.replicate 9 0xFF⟩,
  ⟨0x6086, [0x0F, 0x70, 0x5D, 0x50, 0x30, 0xF3, 0x38, 0x84, 0x43, 0x38, 0x84, 0x43, 0x33, 0x39, 0x93,
    0xCD, 0xD6, 0x6C]⟩,
  ⟨0x6098, List.replicate 0x12 0xFF⟩,
  ⟨0x8010, List.replicate 0x16 0xFF⟩]

/-- The length of a reply, header included. -/
def replyLength : Nat := 50

/-- The reply to a read, from a pad at rest. -/
def flashReply (read : FlashRead) : List UInt8 :=
  let reply :=
    [header, 0x21, timer, status.toUInt8, 0, 0, 0] ++ stick 0x800 0x800 ++ stick 0x800 0x800 ++
    [0x08, 0x90, 0x10] ++ ByteOrder.toBytes 4 read.address ++
    UInt8.ofNat read.content.length :: read.content
  reply ++ List.replicate (replyLength - reply.length) 0

/-- The replies of a pad that hands over its calibration, in the order a host asks. -/
def calibrationReplies? : WirelessPad → Option (List (List UInt8))
  | .switchPro => some (calibrationReads.map flashReply)
  | _ => none

end PadBench.Report
