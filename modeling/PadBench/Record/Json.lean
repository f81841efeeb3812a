import PadBench.Json.Fields
import PadBench.Record.Basic

/-!
Records as JSON objects. The member `log_type` holds the tag of a record and stands first; absent
optional fields are left out.
-/
namespace PadBench

def tagKey : String := "log_type"

def ButtonField.toJson : ButtonField → Json
  | .word value => .int value.toNat
  | .words values => .arr (values.map fun value => .int value.toNat)

def ButtonField.ofJson? (value : Json) : Option ButtonField :=
  match value.uint32? with
  | some number => some (.word number)
  | none => (value.listOf? Json.uint32?).map .words

namespace StageRecord

def toMembers (record : StageRecord) : Json.Members :=
  Json.Members.ofOption "report_id" (fun id : Int64 => .int id.toInt) record.reportId ++
  [("axes", .arr (record.axes.map fun value => .int value.toInt)), ("btns", record.buttons.toJson)] ++
  Json.Members.ofOption "hat" (fun code : UInt8 => .int code.toNat) record.hat

def ofMembers? (members : Json.Members) : Option StageRecord := do
  let reportId ← members.optional? "report_id" Json.int64?
  let axes ← members.defaulted? "axes" [] (Json.listOf? Json.int32?)
  let buttons ← members.defaulted? "btns" (.word 0) ButtonField.ofJson?
  let hat ← members.optional? "hat" Json.uint8?
  some ⟨reportId, axes, buttons, hat⟩

end StageRecord

namespace DeviceInfo

def toMembers (info : DeviceInfo) : Json.Members :=
  [("device_id", .int info.id.toInt), ("device_type", .int info.type.toInt),
    ("device_subtype", .int info.subtype.toInt)] ++
  Json.Members.ofOption "device_name" .str info.name

def ofMembers? (members : Json.Members) : Option DeviceInfo := do
  let id ← members.required? "device_id" Json.int64?
  let type ← members.required? "device_type" Json.int64?
  let subtype ← members.required? "device_subtype" Json.int64?
  let name ← members.optional? "device_name" Json.string?
  some ⟨id, type, subtype, name⟩

end DeviceInfo

namespace DeviceConnection

def toMembers (connection : DeviceConnection) : Json.Members :=
  [("handle", .int connection.handle.toInt), ("device_id", .int connection.id.toInt)] ++
  Json.Members.ofOption "device_type" (fun type : Int64 => .int type.toInt) connection.type

def ofMembers? (members : Json.Members) : Option DeviceConnection := do
  let handle ← members.required? "handle" Json.int64?
  let id ← members.required? "device_id" Json.int64?
  let type ← members.optional? "device_type" Json.int64?
  some ⟨handle, id, type⟩

end DeviceConnection

namespace CalibrationReport

def toMembers (report : CalibrationReport) : Json.Members :=
  let list (values : List Int32) : Json := .arr (values.map fun value => .int value.toInt)
  [("neutral", list report.neutral), ("rel_max", list report.positiveTravel),
    ("rel_min", list report.negativeTravel), ("deadzone", list report.deadzone)]

def ofMembers? (members : Json.Members) : Option CalibrationReport := do
  let list? := Json.listOf? Json.int32?
  let neutral ← members.required? "neutral" list?
  let positive ← members.required? "rel_max" list?
  let negative ← members.required? "rel_min" list?
  let deadzone ← members.required? "deadzone" list?
  some ⟨neutral, positive, negative, deadzone⟩

end CalibrationReport

namespace HidUsage

def toJson (usage : HidUsage) : Json :=
  .obj [("usage_page", .int usage.page.toNat), ("usage", .int usage.usage.toNat),
    ("bit_offset", .int usage.bitOffset.toNat), ("bit_size", .int usage.bitSize.toNat)]

/-- From an object, or from an array of the fields in their order. Missing fields are 0. -/
def ofJson? : Json → Option HidUsage
  | .obj members => do
    let page ← Json.Members.defaulted? members "usage_page" 0 Json.uint32?
    let usage ← Json.Members.defaulted? members "usage" 0 Json.uint32?
    let bitOffset ← Json.Members.defaulted? members "bit_offset" 0 Json.uint32?
    let bitSize ← Json.Members.defaulted? members "bit_size" 0 Json.uint32?
    some ⟨page, usage, bitOffset, bitSize⟩
  | .arr items => do
    let values ← items.mapM Json.uint32?
    if 4 < values.length then none
    else some ⟨values.getD 0 0, values.getD 1 0, values.getD 2 0, values.getD 3 0⟩
  | _ => none

end HidUsage

namespace ParsedReport

def toMembers (report : ParsedReport) : Json.Members :=
  [("report_id", .int report.id.toInt), ("report_type", .int report.type.toInt),
    ("device_type", .int report.deviceType.toInt), ("device_subtype", .int report.deviceSubtype.toInt),
    ("usages", .arr (report.usages.map HidUsage.toJson))]

def ofMembers? (members : Json.Members) : Option ParsedReport := do
  let id ← members.required? "report_id" Json.int64?
  let type ← members.required? "report_type" Json.int64?
  let deviceType ← members.required? "device_type" Json.int64?
  let deviceSubtype ← members.required? "device_subtype" Json.int64?
  let usages ← members.defaulted? "usages" [] (Json.listOf? HidUsage.ofJson?)
  some ⟨id, type, deviceType, deviceSubtype, usages⟩

end ParsedReport

namespace Record

/-- The members of the body, without the tag. -/
def bodyMembers : Record → Json.Members
  | .stage _ body => body.toMembers
  | .connected body | .disconnected body => body.toMembers
  | .deviceName body | .typeUpdate body => body.toMembers
  | .calibration report => report.toMembers
  | .parsedReport body => body.toMembers
  | .unknown => []

def toJson (record : Record) : Json := .obj ((tagKey, .str record.tag) :: record.bodyMembers)

/-- The record of a tag with its body, if the body fits the tag. Every body fits a tag that is not
known. -/
def ofBody? (tag : String) (members : Json.Members) : Option Record :=
  match Stage.ofTag? tag with
  | some which => (StageRecord.ofMembers? members).map (.stage which)
  | none =>
    if tag = "device_conn" then (DeviceConnection.ofMembers? members).map .connected
    else if tag = "device_disconn" then (DeviceConnection.ofMembers? members).map .disconnected
    else if tag = "device_name" then (DeviceInfo.ofMembers? members).map .deviceName
    else if tag = "type_update" then (DeviceInfo.ofMembers? members).map .typeUpdate
    else if tag = "calib_data" then (CalibrationReport.ofMembers? members).map .calibration
    else if tag = "parsed_hid_report" then (ParsedReport.ofMembers? members).map .parsedReport
    else some .unknown

end Record

end PadBench
