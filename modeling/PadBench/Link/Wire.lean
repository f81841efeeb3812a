import PadBench.Link.Address
import PadBench.Link.Arrivals
import PadBench.Settings.Basic
import Std.Async.DNS
import Std.Async.TCP

/-!
Links to real adapters: a connection over the network, or a serial line.

What arrives is taken in piece by piece, by a task of its own, so that whoever waits for a line can stop
waiting. A serial line is used at the speed and in the mode the system has set for it, and a read of it
cannot be called off: a run that ends while it is silent goes on until it gives one more line.
-/
namespace PadBench

/-- Some bytes that arrived, or none once the link is closed. -/
abbrev Piece := Option ByteArray

/-- An open link. -/
structure Wire where
  arrivals : IO.Ref Arrivals
  /-- The piece that is to come next, if it has been asked for. -/
  pending : IO.Ref (Option (Task (Except IO.Error Piece)))
  ask : IO (Task (Except IO.Error Piece))
  send : List UInt8 → IO Unit

/-- The arrivals with one more piece. -/
def Arrivals.take (arrivals : Arrivals) : Except IO.Error Piece → Arrivals
  | .ok (some bytes) => arrivals.add bytes.data.toList
  | .ok none => arrivals.finish .closed
  | .error cause => arrivals.finish (.failed (toString cause))

namespace Wire

def start (ask : IO (Task (Except IO.Error Piece))) (send : List UInt8 → IO Unit) : IO Wire := do
  return ⟨← IO.mkRef .empty, ← IO.mkRef none, ask, send⟩

/-- The most bytes of one piece. -/
def pieceSize : UInt64 := 4096

def dial (host : Std.Net.IPAddr) (service : UInt16) : IO Std.Async.TCP.Socket.Client := do
  let socket ← Std.Async.TCP.Socket.Client.mk
  let place : Std.Net.SocketAddress := match host with
    | .v4 host => .v4 ⟨host, service⟩
    | .v6 host => .v6 ⟨host, service⟩
  (socket.connect place).block
  return socket

/-- A connection to the first host that takes it. -/
def dialFirst (service : UInt16) : List Std.Net.IPAddr → IO Std.Async.TCP.Socket.Client
  | [] => throw (IO.userError "no such host")
  | [host] => dial host service
  | host :: hosts => try dial host service catch _ => dialFirst service hosts

def overNetwork (address : Address) : IO Wire := do
  let hosts ← (Std.Async.DNS.getAddrInfo address.host (toString address.service.toNat)).block
  let socket ← dialFirst address.service hosts.toList
  socket.noDelay
  start (socket.recv? pieceSize).toIO fun frame => (socket.send ⟨frame.toArray⟩).block

/-- The bytes up to the end of a line or of the file. They are read one by one, since a read waits until
it has all it asked for. -/
partial def readLine (file : IO.FS.Handle) (taken : ByteArray) : IO Piece := do
  let byte ← file.read 1
  let taken := taken ++ byte
  if byte.isEmpty then return if taken.isEmpty then none else some taken
  if byte.data.contains ByteStream.lineFeed then return some taken
  readLine file taken

def overSerialLine (path : String) : IO Wire := do
  let incoming ← IO.FS.Handle.mk path .read
  let outgoing ← IO.FS.Handle.mk path .append
  start (IO.asTask (readLine incoming .empty) .dedicated) fun frame => do
    outgoing.write ⟨frame.toArray⟩
    outgoing.flush

/-- One attempt to open the configured link. -/
def attempt (dut : Settings.Dut) : IO Wire :=
  match dut.transport with
  | .serial => overSerialLine dut.serialPort
  | .tcp =>
    match Address.ofText? dut.address with
    | some address => overNetwork address
    | none => throw (IO.userError "no host and service")

/-- Take in the piece that was asked for, if it is there by now. -/
def takeIn (wire : Wire) : IO Unit := do
  if let some piece ← wire.pending.get then
    if ← IO.hasFinished piece then
      wire.pending.set none
      wire.arrivals.modify fun arrivals => arrivals.take piece.get

/-- The next event if it is known by now; if not, more is asked for. -/
def next? (wire : Wire) : IO (Option LinkEvent) := do
  wire.takeIn
  match (← wire.arrivals.get).next? with
  | some (event, arrivals) =>
    wire.arrivals.set arrivals
    return some event
  | none =>
    if (← wire.pending.get).isNone then wire.pending.set (some (← wire.ask))
    return none

/-- The next event, looked for every millisecond until a moment has come. There is none if the user ends
the run meanwhile. -/
def receive (wire : Wire) (isEnded : IO Bool) (deadline : Nat) : Nat → IO (Option LinkEvent)
  | 0 => return some .silent
  | looks + 1 => do
    if ← isEnded then return none
    if let some event ← wire.next? then return event
    if deadline ≤ (← IO.monoMsNow) then return some .silent
    IO.sleep 1
    wire.receive isEnded deadline looks

end Wire

end PadBench
