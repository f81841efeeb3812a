import PadBench.Proofs.Record.Stages

/-!
The bodies of records as members of an object.

What is read has the members of each object in order, a usage of a report descriptor included.

* `Record.bodyMembers_printable`: the members of every body can be printed;
* `Record.ofBody?_eq`: under the tag of a record, members that agree with its body as it is read are read
  as the record.
-/
namespace PadBench

open Json (member? sortMembers sortedMembers)

namespace Json

theorem isPlain_str (text : String) : IsPlain (.str text) := ⟨trivial, Nat.zero_le 1, rfl⟩

theorem sortedItems_eq_map (items : List Json) : sortedItems items = items.map sorted := by
  induction items with
  | nil => rfl
  | cons item items ih => rw [sortedItems, ih, List.map_cons]

theorem keys_sortedMembers (members : Members) :
    (sortedMembers members).map Prod.fst = members.map Prod.fst := by
  induction members with
  | nil => rfl
  | cons member members ih =>
    obtain ⟨key, value⟩ := member
    rw [sortedMembers, List.map_cons, List.map_cons, ih]

/-- Items that can be printed, none nested deeper than `limit`. -/
theorem items_printable {items : List Json} {limit : Nat}
    (each : ∀ item ∈ items, item.IsWhole ∧ item.depth ≤ limit) :
    ItemsWhole items ∧ itemsDepth items ≤ limit := by
  induction items with
  | nil => exact ⟨trivial, Nat.zero_le limit⟩
  | cons item items ih =>
    obtain ⟨here, there⟩ := List.forall_mem_cons.mp each
    obtain ⟨whole, shallow⟩ := ih there
    exact ⟨⟨here.1, whole⟩, Nat.max_le.mpr ⟨here.2, shallow⟩⟩

theorem Members.required?_eq {α : Type} {members : Members} {key : String} {read : Json → Option α}
    {json : Json} (found : member? key members = some json) :
    required? members key read = read json := by
  rw [required?, found]

end Json

namespace DeviceInfo

theorem toMembers_plain (info : DeviceInfo) : ∀ member ∈ info.toMembers, member.2.IsPlain := by
  have number (value : Int64) := Json.isPlain_int (Json.int64_inRange value)
  refine List.forall_mem_append.mpr ⟨?_, Json.Members.ofOption_plain Json.isPlain_str _ _⟩
  exact List.forall_mem_cons.mpr ⟨number info.id, List.forall_mem_cons.mpr ⟨number info.type,
    List.forall_mem_singleton.mpr (number info.subtype)⟩⟩

theorem member?_toMembers (info : DeviceInfo) (key : String) :
    member? key info.toMembers =
      if key = "device_id" then some (.int info.id.toInt)
      else if key = "device_type" then some (.int info.type.toInt)
      else if key = "device_subtype" then some (.int info.subtype.toInt)
      else if key = "device_name" then info.name.map .str
      else none := by
  simp only [toMembers, Json.member?_append, Json.member?_ofOption, member?]
  grind

theorem ofMembers?_eq {info : DeviceInfo} {members : Json.Members}
    (same : ∀ key, key ≠ tagKey → member? key members = member? key info.toMembers) :
    ofMembers? members = some info := by
  have fields (key : String) (field : key ≠ tagKey) := (same key field).trans (info.member?_toMembers key)
  have id : members.required? "device_id" Json.int64? = some info.id := by
    rw [Json.Members.required?_eq (fields "device_id" (by decide)), Json.int64?_toInt]
  have type : members.required? "device_type" Json.int64? = some info.type := by
    rw [Json.Members.required?_eq (fields "device_type" (by decide)), Json.int64?_toInt]
  have subtype : members.required? "device_subtype" Json.int64? = some info.subtype := by
    rw [Json.Members.required?_eq (fields "device_subtype" (by decide)), Json.int64?_toInt]
  have text (text : String) : Json.string? (.str text) = some text := rfl
  have name : members.optional? "device_name" Json.string? = some info.name :=
    Json.Members.optional?_eq text (fun _ => nofun) (fields "device_name" (by decide))
  rw [ofMembers?, id, type, subtype, name]
  rfl

end DeviceInfo

namespace DeviceConnection

theorem toMembers_plain (connection : DeviceConnection) :
    ∀ member ∈ connection.toMembers, member.2.IsPlain := by
  have number (value : Int64) := Json.isPlain_int (Json.int64_inRange value)
  refine List.forall_mem_append.mpr ⟨?_, Json.Members.ofOption_plain number _ _⟩
  exact List.forall_mem_cons.mpr ⟨number connection.handle,
    List.forall_mem_singleton.mpr (number connection.id)⟩

theorem member?_toMembers (connection : DeviceConnection) (key : String) :
    member? key connection.toMembers =
      if key = "handle" then some (.int connection.handle.toInt)
      else if key = "device_id" then some (.int connection.id.toInt)
      else if key = "device_type" then connection.type.map fun type => .int type.toInt
      else none := by
  simp only [toMembers, Json.member?_append, Json.member?_ofOption, member?]
  grind

theorem ofMembers?_eq {connection : DeviceConnection} {members : Json.Members}
    (same : ∀ key, key ≠ tagKey → member? key members = member? key connection.toMembers) :
    ofMembers? members = some connection := by
  have fields (key : String) (field : key ≠ tagKey) :=
    (same key field).trans (connection.member?_toMembers key)
  have handle : members.required? "handle" Json.int64? = some connection.handle := by
    rw [Json.Members.required?_eq (fields "handle" (by decide)), Json.int64?_toInt]
  have id : members.required? "device_id" Json.int64? = some connection.id := by
    rw [Json.Members.required?_eq (fields "device_id" (by decide)), Json.int64?_toInt]
  have type : members.optional? "device_type" Json.int64? = some connection.type :=
    Json.Members.optional?_eq Json.int64?_toInt (fun _ => nofun) (fields "device_type" (by decide))
  rw [ofMembers?, handle, id, type]
  rfl

end DeviceConnection

namespace CalibrationReport

theorem toMembers_plain (report : CalibrationReport) : ∀ member ∈ report.toMembers, member.2.IsPlain := by
  have list (values : List Int32) := Json.isPlain_ints Json.int32_inRange values
  exact List.forall_mem_cons.mpr ⟨list report.neutral, List.forall_mem_cons.mpr ⟨list report.positiveTravel,
    List.forall_mem_cons.mpr ⟨list report.negativeTravel,
      List.forall_mem_singleton.mpr (list report.deadzone)⟩⟩⟩

theorem ofMembers?_eq {report : CalibrationReport} {members : Json.Members}
    (same : ∀ key, key ≠ tagKey → member? key members = member? key report.toMembers) :
    ofMembers? members = some report := by
  have field (key : String) {values : List Int32} (named : key ≠ tagKey)
      (found : member? key report.toMembers = some (.arr (values.map fun value => .int value.toInt))) :
      members.required? key (Json.listOf? Json.int32?) = some values := by
    rw [Json.Members.required?_eq ((same key named).trans found), Json.listOf?_map Json.int32?_toInt]
  have neutral := field "neutral" (by decide) rfl
  have positive := field "rel_max" (by decide) rfl
  have negative := field "rel_min" (by decide) rfl
  have deadzone := field "deadzone" (by decide) rfl
  simp only [ofMembers?, neutral, positive, negative, deadzone]
  rfl

end CalibrationReport

namespace HidUsage

theorem toJson_printable (usage : HidUsage) : usage.toJson.IsWhole ∧ usage.toJson.depth ≤ 1 := by
  have number (value : UInt32) : Json.Numeral.InRange value.toNat := Json.natural_inRange value.toNat_lt
  exact ⟨⟨number usage.page, number usage.usage, number usage.bitOffset, number usage.bitSize, trivial⟩,
    Nat.le_refl 1⟩

/-- A usage is read from its members in order. -/
theorem ofJson?_sorted (usage : HidUsage) : ofJson? usage.toJson.sorted = some usage := by
  obtain ⟨page, which, bitOffset, bitSize⟩ := usage
  let members : Json.Members := [("usage_page", .int page.toNat), ("usage", .int which.toNat),
    ("bit_offset", .int bitOffset.toNat), ("bit_size", .int bitSize.toNat)]
  have distinct : (members.map Prod.fst).Nodup := by simp [members]
  have field (key : String) {value : UInt32} (found : member? key members = some (.int value.toNat)) :
      Json.Members.defaulted? (sortMembers members) key 0 Json.uint32? = some value := by
    rw [← Json.member?_sortMembers_of_nodup key distinct] at found
    rw [Json.Members.defaulted?_eq 0 found, Json.uint32?_toNat]
  have shape : (toJson ⟨page, which, bitOffset, bitSize⟩).sorted = .obj (sortMembers members) := rfl
  rw [shape, ofJson?, field "usage_page" rfl, field "usage" rfl,
    field "bit_offset" rfl, field "bit_size" rfl]
  rfl

end HidUsage

namespace ParsedReport

theorem toMembers_printable (report : ParsedReport) :
    Json.MembersWhole report.toMembers ∧ Json.membersDepth report.toMembers ≤ 2 := by
  have number (value : Int64) := Json.int64_inRange value
  have usages : Json.ItemsWhole (report.usages.map HidUsage.toJson) ∧
      Json.itemsDepth (report.usages.map HidUsage.toJson) ≤ 1 := by
    apply Json.items_printable
    intro item member
    obtain ⟨usage, _, rfl⟩ := List.mem_map.mp member
    exact usage.toJson_printable
  obtain ⟨whole, shallow⟩ := usages
  refine ⟨⟨number report.id, number report.type, number report.deviceType, number report.deviceSubtype,
    whole, trivial⟩, ?_⟩
  simp only [toMembers, Json.membersDepth, Json.depth]
  omega

theorem ofMembers?_eq {report : ParsedReport} {members : Json.Members}
    (same : ∀ key, key ≠ tagKey → member? key members = member? key (sortedMembers report.toMembers)) :
    ofMembers? members = some report := by
  have field (key : String) {value : Int64} (named : key ≠ tagKey)
      (found : member? key (sortedMembers report.toMembers) = some (.int value.toInt)) :
      members.required? key Json.int64? = some value := by
    rw [Json.Members.required?_eq ((same key named).trans found), Json.int64?_toInt]
  have read : Json.sortedItems (report.usages.map HidUsage.toJson) =
      report.usages.map fun usage => usage.toJson.sorted := by
    rw [Json.sortedItems_eq_map, List.map_map]
    rfl
  have found : member? "usages" (sortedMembers report.toMembers) =
      some (.arr (Json.sortedItems (report.usages.map HidUsage.toJson))) := rfl
  have usages : members.defaulted? "usages" [] (Json.listOf? HidUsage.ofJson?) = some report.usages := by
    rw [Json.Members.defaulted?_eq [] ((same "usages" (by decide)).trans found), read,
      Json.listOf?_map HidUsage.ofJson?_sorted]
  have id := field "report_id" (by decide) rfl
  have type := field "report_type" (by decide) rfl
  have deviceType := field "device_type" (by decide) rfl
  have deviceSubtype := field "device_subtype" (by decide) rfl
  simp only [ofMembers?, id, type, deviceType, deviceSubtype, usages]
  rfl

end ParsedReport

namespace Record

/-- A record can be printed, and no key of its body is there twice or is the tag's. -/
theorem bodyMembers_printable (record : Record) :
    Json.MembersWhole record.bodyMembers ∧ Json.membersDepth record.bodyMembers ≤ 2 := by
  have plain {members : Json.Members} (each : ∀ member ∈ members, member.2.IsPlain) :
      Json.MembersWhole members ∧ Json.membersDepth members ≤ 2 := by
    obtain ⟨whole, shallow, _⟩ := Json.members_of_plain each
    exact ⟨whole, Nat.le_succ_of_le shallow⟩
  cases record with
  | stage which body => exact plain body.toMembers_plain
  | connected body | disconnected body => exact plain body.toMembers_plain
  | deviceName body | typeUpdate body => exact plain body.toMembers_plain
  | calibration report => exact plain report.toMembers_plain
  | parsedReport body => exact body.toMembers_printable
  | unknown => exact ⟨trivial, Nat.zero_le 2⟩

theorem keys_nodup (record : Record) : (tagKey :: record.bodyMembers.map Prod.fst).Nodup := by
  cases record with
  | stage which body =>
    obtain ⟨reportId, axes, buttons, hat⟩ := body
    cases reportId <;> cases hat <;>
      simp [bodyMembers, StageRecord.toMembers, Json.Members.ofOption, tagKey]
  | connected body | disconnected body =>
    obtain ⟨handle, id, type⟩ := body
    cases type <;> simp [bodyMembers, DeviceConnection.toMembers, Json.Members.ofOption, tagKey]
  | deviceName body | typeUpdate body =>
    obtain ⟨id, type, subtype, name⟩ := body
    cases name <;> simp [bodyMembers, DeviceInfo.toMembers, Json.Members.ofOption, tagKey]
  | calibration report => simp [bodyMembers, CalibrationReport.toMembers, tagKey]
  | parsedReport body => simp [bodyMembers, ParsedReport.toMembers, tagKey]
  | unknown => simp [bodyMembers]

/-- Members that agree with a body as it is read are read as the record, under its tag. -/
theorem ofBody?_eq {record : Record} {members : Json.Members}
    (same : ∀ key, key ≠ tagKey → member? key members = member? key (sortedMembers record.bodyMembers)) :
    ofBody? record.tag members = some record := by
  have asWritten {written : Json.Members} (plain : ∀ member ∈ written, member.2.IsPlain)
      (body : record.bodyMembers = written) (key : String) (named : key ≠ tagKey) :
      member? key members = member? key written := by
    rw [same key named, body, (Json.members_of_plain plain).2.2]
  cases record with
  | stage which body =>
    have read := StageRecord.ofMembers?_eq (asWritten body.toMembers_plain rfl)
    have known : Stage.ofTag? which.tag = some which := by cases which <;> decide
    simp only [tag, ofBody?, known, read, Option.map_some]
  | connected body | disconnected body =>
    have read := DeviceConnection.ofMembers?_eq (asWritten body.toMembers_plain rfl)
    exact congrArg (Option.map _) read
  | deviceName body | typeUpdate body =>
    have read := DeviceInfo.ofMembers?_eq (asWritten body.toMembers_plain rfl)
    exact congrArg (Option.map _) read
  | calibration report =>
    have read := CalibrationReport.ofMembers?_eq (asWritten report.toMembers_plain rfl)
    exact congrArg (Option.map _) read
  | parsedReport body =>
    have read := ParsedReport.ofMembers?_eq same
    exact congrArg (Option.map _) read
  | unknown => rfl

end Record

end PadBench
