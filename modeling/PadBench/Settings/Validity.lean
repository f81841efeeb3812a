import PadBench.Fault
import PadBench.Settings.Reading
import PadBench.Text.Utf8
import PadBench.Wired.Console
import PadBench.Wireless.Pad

/-!
Which settings make sense, and the way from a file to settings that do.
-/
namespace PadBench.Settings

def longestTimeoutMs : Nat := 10000
def mostRetries : Nat := 10

/-- One half: the share of the travel at which nothing would be left. -/
def fractionEnd : BinaryFloat := .ofDecimal .single false 5 (-1)

/-- The shares a deadzone can have. -/
def isFraction (value : BinaryFloat) : Bool :=
  !value.isNan && !value.lt (.ofInt .single 0) && value.lt fractionEnd

def Dut.validate (dut : Dut) : Except Fault Unit := do
  if dut.responseTimeoutMs = 0 ∨ longestTimeoutMs < dut.responseTimeoutMs then
    throw (.settings s!"response_timeout_ms must be between 1 and {longestTimeoutMs}")
  if dut.connectRetries = 0 ∨ mostRetries < dut.connectRetries then
    throw (.settings s!"connect_retries must be between 1 and {mostRetries}")
  if dut.maxLines = 0 then
    throw (.settings "max_lines_per_response must be greater than 0")
  match dut.transport with
  | .tcp =>
    if dut.address.isEmpty then throw (.settings "address cannot be empty for tcp transport")
  | .serial =>
    if dut.serialPort.isEmpty then throw (.settings "serial_port cannot be empty for serial transport")

/-- The pad that is modelled. -/
def Model.pad (model : Model) : Except Fault WirelessPad :=
  match WirelessPad.ofName? model.source with
  | some pad => .ok pad
  | none => .error (.unknownProfile model.source)

/-- The console that is modelled. -/
def Model.console (model : Model) : Except Fault Console :=
  match Console.ofName? model.destination with
  | some console => .ok console
  | none => .error (.unknownProfile model.destination)

/-- A name that a device can advertise. -/
def isAdvertisable (name : String) : Bool := !name.isEmpty && !name.toList.contains '\x00'

def Model.validate (model : Model) : Except Fault Unit := do
  if !isFraction model.fraction then
    throw (.settings "deadzone_fraction must be in [0.0, 0.5)")
  let _ ← model.pad
  let _ ← model.console
  if !model.deviceName.all isAdvertisable then
    throw (.settings "device_name must be non-empty and contain no NUL")

def Results.validate (results : Results) : Except Fault Unit := do
  if results.enabled && results.path.isEmpty then
    throw (.settings "results path cannot be empty when enabled")
  if results.format != Results.jsonLines then
    throw (.settings "results format must be 'jsonl' (only supported format)")

def Logging.validate (logging : Logging) : Except Fault Unit := do
  if logging.level.toList.all Text.isBlank then
    throw (.settings "logging level cannot be empty")

/-- The first fault of the settings, section by section. -/
def validate (settings : Settings) : Except Fault Unit := do
  settings.dut.validate
  settings.model.validate
  settings.results.validate
  settings.logging.validate

/-- The settings in a text, if they make sense. -/
def ofText (text : List Char) : Except Fault Settings := do
  match (Toml.parse? text).bind ofMembers? with
  | none => throw .malformedSettings
  | some settings =>
    settings.validate
    return settings

/-- The settings in a file, by its content. -/
def ofBytes (bytes : List UInt8) : Except Fault Settings :=
  match Text.Utf8.decode bytes with
  | .ok text => ofText text
  | .error _ => .error (.io .invalidData)

end PadBench.Settings
