import PadBench.Command.Basic

/-!
Writing a command as a frame.
-/
namespace PadBench.Command

/-- The bytes after the header. A name ends at its NUL, so it must not hold one. -/
def payload : Command → Except Fault (List UInt8)
  | .connect ble => .ok [if ble then 1 else 0]
  | .disconnect | .coverageDump => .ok []
  | .name text =>
    if text.toList.contains '\x00' then .error (.nulInName text)
    else .ok (Text.Utf8.encode text.toList ++ [0])
  | .hidDescriptor bytes | .globalConfig bytes => .ok bytes
  | .hidReport report => .ok (List.replicate reportOffset 0 ++ report)
  | .bridgeReport id report => .ok (id :: report)
  | .outputConfig index config | .inputConfig index config => .ok (index :: config)
  | .systemId id => .ok [id]
  | .vidPid vid pid => .ok (ByteOrder.toBytes 2 vid.toNat ++ ByteOrder.toBytes 2 pid.toNat)

/-- A frame of the given parts. -/
def frame (opcode handle : UInt8) (payload : List UInt8) : List UInt8 :=
  opcode :: handle :: ByteOrder.toBytes 2 payload.length ++ payload

def encode (command : Command) (handle : UInt8) : Except Fault (List UInt8) := do
  let payload ← command.payload
  if longestPayload < payload.length then .error (.payloadTooLong payload.length)
  else .ok (frame command.opcode handle payload)

end PadBench.Command
