import PadBench.Pad.CalibrationReport

/-!
The records an adapter prints about its work.
-/
namespace PadBench

/-- The stages of an adapter, from the raw report to the console's wire. -/
inductive Stage where
  | wireless | generic | mapped | wired
  deriving DecidableEq, Repr

namespace Stage

def all : List Stage := [.wireless, .generic, .mapped, .wired]

def name : Stage → String
  | .wireless => "wireless"
  | .generic => "generic"
  | .mapped => "mapped"
  | .wired => "wired"

/-- The tag of the stage's records. -/
def tag : Stage → String
  | .wireless => "wireless_input"
  | .generic => "generic_input"
  | .mapped => "mapped_input"
  | .wired => "wired_output"

def ofTag? (tag : String) : Option Stage := all.find? fun stage => stage.tag == tag

theorem mem_all (which : Stage) : which ∈ all := by cases which <;> decide

end Stage

/-- The buttons of a stage: one word, or a list of words of which the first counts. -/
inductive ButtonField where
  | word (value : UInt32)
  | words (values : List UInt32)
  deriving DecidableEq, Repr

def ButtonField.primary : ButtonField → UInt32
  | .word value => value
  | .words values => values.headD 0

structure StageRecord where
  reportId : Option Int64
  axes : List Int32
  buttons : ButtonField
  hat : Option UInt8
  deriving DecidableEq, Repr

namespace StageRecord

def axis? (record : StageRecord) (axis : Axis) : Option Int :=
  record.axes[axis.index]?.map Int32.toInt

end StageRecord

/-- What an adapter takes a device for. -/
structure DeviceInfo where
  id : Int64
  type : Int64
  subtype : Int64
  name : Option String
  deriving DecidableEq, Repr

structure DeviceConnection where
  handle : Int64
  id : Int64
  type : Option Int64
  deriving DecidableEq, Repr

/-- A field that a report descriptor locates. -/
structure HidUsage where
  page : UInt32
  usage : UInt32
  bitOffset : UInt32
  bitSize : UInt32
  deriving DecidableEq, Repr

/-- The layout of a report, as read from its descriptor. -/
structure ParsedReport where
  id : Int64
  type : Int64
  deviceType : Int64
  deviceSubtype : Int64
  usages : List HidUsage
  deriving DecidableEq, Repr

inductive Record where
  | stage (stage : Stage) (body : StageRecord)
  | connected (body : DeviceConnection)
  | disconnected (body : DeviceConnection)
  | deviceName (body : DeviceInfo)
  | typeUpdate (body : DeviceInfo)
  | calibration (report : CalibrationReport)
  | parsedReport (body : ParsedReport)
  /-- A record with a tag of its own, whose body is not kept. -/
  | unknown
  deriving DecidableEq, Repr

namespace Record

def tag : Record → String
  | .stage which _ => which.tag
  | .connected _ => "device_conn"
  | .disconnected _ => "device_disconn"
  | .deviceName _ => "device_name"
  | .typeUpdate _ => "type_update"
  | .calibration _ => "calib_data"
  | .parsedReport _ => "parsed_hid_report"
  | .unknown => "unknown"

end Record

end PadBench
