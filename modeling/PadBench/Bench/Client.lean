import PadBench.Bench.Dialogue
import PadBench.Command.Encoding
import PadBench.Record.Observation
import PadBench.Settings.Basic
import PadBench.Text.Duration

/-!
One request to the adapter at a time: a frame is sent, and lines are read until they answer it.

Only record lines count as an answer, but every line counts toward the budget. What was printed in
answer to an earlier request and not read then is read as if it answered this one.
-/
namespace PadBench

/-- The handle every command is addressed to, and how long and how many lines an answer may take. -/
structure Client where
  handle : UInt8
  responseTimeoutMs : Nat
  maxLines : Nat
  deriving DecidableEq, Repr

namespace Client

def ofSettings (dut : Settings.Dut) : Client := ⟨dut.handle, dut.responseTimeoutMs, dut.maxLines⟩

/-- How logs show a client. -/
def describe (client : Client) : String :=
  s!"DutClient \x7b handle: {client.handle.toNat}, response_timeout: " ++
    Text.milliseconds client.responseTimeoutMs ++ s!", max_lines: {client.maxLines}, .. \x7d"

/-- What is awaited after a command, as messages name it. -/
def awaited (command : Command) : String :=
  "response to opcode " ++ Command.opcodeText command.opcode

/-- Lines are read, at most `budget` of them, until what has been seen is enough. -/
def collect (client : Client) (command : Command) (isEnough : Observation → Bool) :
    Nat → Observation → Dialogue Observation
  | 0, _ => .stop (.protocol (s!"no complete {awaited command} within {client.maxLines} lines"))
  | budget + 1, seen => .receive fun
    | .silent => .stop (.timeout (awaited command) client.responseTimeoutMs)
    | .failed reason => .stop (.transport ("Failed to read response: " ++ reason))
    | .closed => .stop (.transport "DUT closed the link")
    | .line text =>
      match Record.ofLine? text with
      | .error malformed => .stop (.ofMalformed malformed)
      | .ok none => collect client command isEnough budget seen
      | .ok (some records) =>
        let seen := seen.pushAll records
        if isEnough seen then .done seen else collect client command isEnough budget seen

/-- A command and its answer. A command that has no frame is not sent. -/
def exchange (client : Client) (command : Command) (isEnough : Observation → Bool) :
    Dialogue Observation :=
  match command.encode client.handle with
  | .error cause => .stop (.ofCommand cause)
  | .ok frame => .send frame fun
    | some reason => .stop (.transport ("Failed to write command: " ++ reason))
    | none => client.collect command isEnough client.maxLines .empty

/-- A command that any record line answers. -/
def send (client : Client) (command : Command) : Dialogue Observation :=
  client.exchange command fun _ => true

/-- A report that is answered once every stage has been seen. -/
def inject (client : Client) (report : List UInt8) : Dialogue Observation :=
  client.exchange (.hidReport report) Observation.isComplete

/-- The replies of a pad that hands over its calibration. Each is answered by any record line, until a
calibration is reported; after the last one it is waited for. -/
def calibrate (client : Client) : List (List UInt8) → Dialogue Observation
  | [] => .done .empty
  | [reply] => client.exchange (.hidReport reply) fun seen => seen.calibration.isSome
  | reply :: replies => do
    let seen ← client.send (.hidReport reply)
    if seen.calibration.isSome then .done seen else client.calibrate replies

end Client

end PadBench
