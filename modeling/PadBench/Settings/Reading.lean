import PadBench.Settings.Basic
import PadBench.Toml.Document

/-!
Settings as a TOML document gives them.

Every section and every field may be left out and has a default. A section is a table of fields by their
names, or an array of their values in order. What is not known is ignored; a value of the wrong type, or
a number out of range, is refused.
-/
namespace PadBench.Settings

/-- What a document says of one section. -/
inductive Section where
  | named (members : Toml.Members)
  | listed (values : List Toml)

namespace Section

/-- A moment is taken for a section that says nothing. -/
def ofToml? : Option Toml → Option Section
  | none => some (.named [])
  | some (.table _ members) => some (.named members)
  | some (.arr _ values) => some (.listed values)
  | some (.moment _) => some (.named [])
  | some _ => none

/-- The value for a field, by its position or its name. -/
def value? (fields : Section) (position : Nat) (name : String) : Option Toml :=
  match fields with
  | .named members => Toml.member? name members
  | .listed values => values[position]?

/-- A field that may be left out. -/
def read {α : Type} (fields : Section) (position : Nat) (name : String) (kind : Toml → Option α)
    (default : α) : Option α :=
  match fields.value? position name with
  | none => some default
  | some value => kind value

end Section

namespace Kind

def truth : Toml → Option Bool
  | .bool value => some value
  | _ => none

def text : Toml → Option String
  | .str text => some text
  | _ => none

def someText (value : Toml) : Option (Option String) := (text value).map some

/-- A whole number from 0 to a greatest one. -/
def natural (greatest : Nat) : Toml → Option Nat
  | .int value => if 0 ≤ value ∧ value ≤ (greatest : Int) then some value.toNat else none
  | _ => none

def byte (value : Toml) : Option UInt8 := (natural 0xFF value).map UInt8.ofNat

def word : Toml → Option Nat := natural 0xFFFFFFFF

def longWord : Toml → Option Nat := natural 0xFFFFFFFFFFFFFFFF

/-- A number in single precision. -/
def single : Toml → Option BinaryFloat
  | .int value => some (.ofInt .single value)
  | .real value => some (value.convert .single)
  | _ => none

def isEmpty : Toml → Bool
  | .arr _ [] => true
  | .table _ [] => true
  | _ => false

/-- The name of a transport, alone or as the only key of a table, with an empty value. -/
def transport : Toml → Option Transport
  | .str name => Transport.ofName? name
  | .table _ [(name, value)] => if isEmpty value then Transport.ofName? name else none
  | _ => none

end Kind

def Dut.ofSection? (fields : Section) : Option Dut := do
  let defaults := Dut.default
  let enabled ← fields.read 0 "enabled" Kind.truth defaults.enabled
  let transport ← fields.read 1 "transport" Kind.transport defaults.transport
  let address ← fields.read 2 "address" Kind.text defaults.address
  let serialPort ← fields.read 3 "serial_port" Kind.text defaults.serialPort
  let baudRate ← fields.read 4 "baud_rate" Kind.word defaults.baudRate
  let handle ← fields.read 5 "handle" Kind.byte defaults.handle
  let responseTimeoutMs ←
    fields.read 6 "response_timeout_ms" Kind.longWord defaults.responseTimeoutMs
  let connectRetries ← fields.read 7 "connect_retries" Kind.word defaults.connectRetries
  let retryIntervalMs ← fields.read 8 "retry_interval_ms" Kind.longWord defaults.retryIntervalMs
  let maxLines ← fields.read 9 "max_lines_per_response" Kind.longWord defaults.maxLines
  some
    { enabled, transport, address, serialPort, baudRate, handle, responseTimeoutMs, connectRetries,
      retryIntervalMs, maxLines }

def Model.ofSection? (fields : Section) : Option Model := do
  let defaults := Model.default
  let fraction ← fields.read 0 "deadzone_fraction" Kind.single defaults.fraction
  let source ← fields.read 1 "source" Kind.text defaults.source
  let destination ← fields.read 2 "destination" Kind.text defaults.destination
  let deviceName ← fields.read 3 "device_name" Kind.someText defaults.deviceName
  some { fraction, source, destination, deviceName }

def Results.ofSection? (fields : Section) : Option Results := do
  let defaults := Results.default
  let enabled ← fields.read 0 "enabled" Kind.truth defaults.enabled
  let path ← fields.read 1 "path" Kind.text defaults.path
  let format ← fields.read 2 "format" Kind.text defaults.format
  some { enabled, path, format }

def Logging.ofSection? (fields : Section) : Option Logging := do
  let defaults := Logging.default
  let level ← fields.read 0 "level" Kind.text defaults.level
  let file ← fields.read 1 "file" Kind.someText defaults.file
  some { level, file }

/-- The settings of a document. -/
def ofMembers? (members : Toml.Members) : Option Settings := do
  let dut ← Dut.ofSection? (← Section.ofToml? (Toml.member? "dut" members))
  let model ← Model.ofSection? (← Section.ofToml? (Toml.member? "oracle" members))
  let results ← Results.ofSection? (← Section.ofToml? (Toml.member? "results" members))
  let logging ← Logging.ofSection? (← Section.ofToml? (Toml.member? "logging" members))
  some { dut, model, results, logging }

end PadBench.Settings
