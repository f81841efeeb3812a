import PadBench.Bench.Client
import PadBench.Report.Handshake
import PadBench.Settings.Validity

/-!
A whole session against one adapter.

The adapter is freed, told its console, and shown a new pad; a pad that calibrates itself hands its
calibration over, and what the adapter makes of it is adopted. Two reports at rest follow, and then every
scenario that the pad's report can express. A failed scenario is counted; only a fault ends the session.
-/
namespace PadBench

structure Session where
  pad : WirelessPad
  console : Console
  adapter : Adapter
  /-- The name the pad advertises instead of its own. -/
  deviceName : Option String

/-- How many scenarios passed, failed, or could not be put into a report. -/
structure Tally where
  passed : Nat
  failed : Nat
  skipped : Nat
  deriving DecidableEq, Repr

namespace Tally

def zero : Tally := ⟨0, 0, 0⟩

def total (tally : Tally) : Nat := tally.passed + tally.failed + tally.skipped

def skip (tally : Tally) : Tally := { tally with skipped := tally.skipped + 1 }

def count (tally : Tally) (hasPassed : Bool) : Tally :=
  if hasPassed then { tally with passed := tally.passed + 1 }
  else { tally with failed := tally.failed + 1 }

end Tally

namespace Session

def new (pad : WirelessPad) (console : Console) (fraction : BinaryFloat) (deviceName : Option String) :
    Session :=
  ⟨pad, console, .withFraction pad.profile console.profile fraction, deviceName⟩

/-- The session of some settings. -/
def ofSettings (settings : Settings.Model) : Except Fault Session := do
  let pad ← settings.pad
  let console ← settings.console
  return new pad console settings.fraction settings.deviceName

/-- Reports at rest before the first scenario. -/
def warmUpReports : Nat := 2

def advertisedName (session : Session) : Except Fault String :=
  match session.deviceName.or (Report.deviceName? session.pad) with
  | some name => .ok name
  | none => .error (.unknownProfile (session.pad.name ++ " has no report encoder to drive a DUT"))

/-- The report of a pad at rest under the calibration in force. -/
def restReport (session : Session) (adapter : Adapter) : Except Fault (List UInt8) :=
  match Report.encode? session.pad adapter.restState with
  | some report => .ok report
  | none => .error (.unknownProfile (session.pad.name ++ " has no report encoder"))

/-- The calibration an answer reports is in force from now on. -/
def adopt (adapter : Adapter) (seen : Observation) : Dialogue Adapter :=
  match seen.calibration with
  | none => .done adapter
  | some report =>
    match adapter.calibrate report with
    | .error cause => .stop (.ofCalibration cause)
    | .ok adapter => .notify (.calibrated adapter.source.axes) (.done adapter)

/-- A generic pad shows its descriptor. -/
def describePad (session : Session) (client : Client) (adapter : Adapter) : Dialogue Adapter :=
  match session.pad with
  | .generic => do adopt adapter (← client.send (.hidDescriptor Report.genericDescriptor))
  | _ => .done adapter

def handOverCalibration (session : Session) (client : Client) (adapter : Adapter) : Dialogue Adapter :=
  match adapter.source.calibration, Report.calibrationReplies? session.pad with
  | some _, some replies => do adopt adapter (← client.calibrate replies)
  | _, _ => .done adapter

/-- The same report a number of times. -/
def warmUp (client : Client) (report : List UInt8) : Nat → Adapter → Dialogue Adapter
  | 0, adapter => .done adapter
  | count + 1, adapter => do
    let adapter ← adopt adapter (← client.inject report)
    warmUp client report count adapter

/-- All that comes before the scenarios. -/
def setUp (session : Session) (client : Client) : Dialogue Adapter := do
  let name ← .ofExcept session.advertisedName
  let _ ← client.send .disconnect
  let _ ← client.send (.systemId session.console.systemId)
  let _ ← client.send (.connect false)
  let adapter ← adopt session.adapter (← client.send (.name name))
  let adapter ← session.describePad client adapter
  let adapter ← session.handOverCalibration client adapter
  let report ← .ofExcept (session.restReport adapter)
  warmUp client report warmUpReports adapter

def result (session : Session) (scenario : Scenario) (seen : Observation) (mask : UInt32) :
    ScenarioResult :=
  ⟨session.pad.name, session.console.name, scenario.name, scenario.kind,
    Verdict.mismatches scenario seen mask⟩

/-- The scenarios in order, each judged before the next is sent. -/
def play (session : Session) (client : Client) (mask : UInt32) :
    List Scenario → Tally → Dialogue Tally
  | [], tally => .done tally
  | scenario :: scenarios, tally =>
    match Report.encode? session.pad scenario.input with
    | none => play session client mask scenarios tally.skip
    | some report => do
      let seen ← client.inject report
      let result := session.result scenario seen mask
      .notify (.judged result) (play session client mask scenarios (tally.count result.passed))

def dialogue (session : Session) (client : Client) : Dialogue Tally := do
  let adapter ← session.setUp client
  session.play client adapter.source.buttons.union adapter.scenarios .zero

end Session

end PadBench
