import PadBench.Pad.Response

/-!
What a run of the bench is told: how the adapter is reached, what is modelled, where results and logs go.
-/
namespace PadBench

namespace Settings

/-- How the adapter is reached. -/
inductive Transport where
  | tcp | serial
  deriving DecidableEq, Repr

namespace Transport

def all : List Transport := [.tcp, .serial]

def name : Transport → String
  | .tcp => "tcp"
  | .serial => "serial"

def ofName? (name : String) : Option Transport := all.find? fun transport => transport.name == name

end Transport

/-- The device under test. `handle` is the one every command is addressed to. -/
structure Dut where
  enabled : Bool
  transport : Transport
  address : String
  serialPort : String
  baudRate : Nat
  handle : UInt8
  responseTimeoutMs : Nat
  connectRetries : Nat
  retryIntervalMs : Nat
  maxLines : Nat
  deriving DecidableEq, Repr

namespace Dut

def default : Dut :=
  { enabled := false
    transport := .tcp
    address := "localhost:5555"
    serialPort := "/dev/ttyUSB0"
    baudRate := 921600
    handle := 0
    responseTimeoutMs := 1000
    connectRetries := 3
    retryIntervalMs := 1000
    maxLines := 64 }

/-- Where the configured transport finds the adapter. -/
def target (dut : Dut) : String :=
  match dut.transport with
  | .tcp => dut.address
  | .serial => dut.serialPort

end Dut

/-- The model of the adapter. `source` and `destination` name the pad and the console; `deviceName`
takes the place of the name the pad advertises. -/
structure Model where
  fraction : BinaryFloat
  source : String
  destination : String
  deviceName : Option String
  deriving DecidableEq, Repr

def Model.default : Model := ⟨Response.defaultFraction, "ps4", "gc", none⟩

structure Results where
  enabled : Bool
  path : String
  format : String
  deriving DecidableEq, Repr

/-- The only format of results: one JSON object a line. -/
def Results.jsonLines : String := "jsonl"

def Results.default : Results := ⟨false, "./results/oracle.jsonl", jsonLines⟩

/-- Logs go to `file` too, if there is one. -/
structure Logging where
  level : String
  file : Option String
  deriving DecidableEq, Repr

def Logging.default : Logging := ⟨"info", none⟩

end Settings

structure Settings where
  dut : Settings.Dut
  model : Settings.Model
  results : Settings.Results
  logging : Settings.Logging
  deriving DecidableEq, Repr

def Settings.default : Settings := ⟨.default, .default, .default, .default⟩

end PadBench
