import PadBench.Command.Basic

/-!
Reading a frame back as a command. More frames are read than written: a flag may be any byte, a
missing one is off, the bytes before a HID report are ignored, and a name may hold NULs before its
last.
-/
namespace PadBench.Command

/-- The name in a payload: everything before the NUL that ends it. -/
def nameOf (payload : List UInt8) : Except Fault Command :=
  if payload.getLast? = some 0 then
    match Text.Utf8.decode payload.dropLast with
    | .ok text => .ok (.name (String.ofList text))
    | .error cause => .error (.nameNotUtf8 cause)
  else .error .nameUnterminated

/-- The command of an opcode with its payload. -/
def ofPayload (opcode : UInt8) (payload : List UInt8) : Except Fault Command :=
  let wrongLength := .error (.payloadLength opcode payload.length)
  match opcode.toNat, payload with
  | 0x01, [] => .ok (.connect false)
  | 0x01, [flag] => .ok (.connect (flag != 0))
  | 0x02, [] => .ok .disconnect
  | 0x03, bytes => nameOf bytes
  | 0x04, bytes => .ok (.hidDescriptor bytes)
  | 0x05, bytes =>
    if bytes.length < reportOffset then wrongLength else .ok (.hidReport (bytes.drop reportOffset))
  | 0x06, id :: report => .ok (.bridgeReport id report)
  | 0x07, bytes => .ok (.globalConfig bytes)
  | 0x08, index :: config => .ok (.outputConfig index config)
  | 0x09, index :: config => .ok (.inputConfig index config)
  | 0x0A, [id] => .ok (.systemId id)
  | 0x0B, [v₀, v₁, p₀, p₁] =>
    .ok (.vidPid (UInt16.ofNat (ByteOrder.ofBytes [v₀, v₁])) (UInt16.ofNat (ByteOrder.ofBytes [p₀, p₁])))
  | 0x0C, [] => .ok .coverageDump
  | number, _ => if 0x01 ≤ number && number ≤ 0x0C then wrongLength else .error (.unknownOpcode opcode)

/-- The handle and the command of a frame. -/
def decode : List UInt8 → Except Fault (UInt8 × Command)
  | opcode :: handle :: low :: high :: payload =>
    let declared := ByteOrder.ofBytes [low, high]
    if declared ≠ payload.length then .error (.lengthDiffers declared payload.length)
    else (ofPayload opcode payload).map (handle, ·)
  | short => .error (.frameTooShort short.length)

end PadBench.Command
