import PadBench.Proofs.Record.Line

/-!
Stage records as members of an object.

* `ofMembers?_eq`: any members that agree with those of a stage record on its fields are read as it;
* `ofTagged_stage`: under the tag of a stage, in order or not, they are a record of that stage.
-/
namespace PadBench

open Json (member? sortMembers sortedMembers insertMember)

theorem ButtonField.ofJson?_toJson (buttons : ButtonField) :
    ofJson? buttons.toJson = some buttons := by
  cases buttons with
  | word value =>
    rw [toJson, ofJson?, Json.uint32?_toNat]
  | words values =>
    have list := Json.listOf?_map Json.uint32?_toNat values
    rw [toJson, ofJson?, list]
    rfl

theorem ButtonField.toJson_plain (buttons : ButtonField) : buttons.toJson.IsPlain := by
  have natural (value : UInt32) : Json.Numeral.InRange value.toNat :=
    Json.natural_inRange value.toNat_lt
  cases buttons with
  | word value => exact Json.isPlain_int (natural value)
  | words values => exact Json.isPlain_ints natural values

namespace StageRecord

theorem toMembers_plain (record : StageRecord) : ∀ member ∈ record.toMembers, member.2.IsPlain := by
  have code (value : UInt8) : Json.Numeral.InRange value.toNat :=
    Json.natural_inRange (Nat.lt_trans value.toNat_lt (by decide))
  have axes := Json.isPlain_ints Json.int32_inRange record.axes
  refine List.forall_mem_append.mpr ⟨List.forall_mem_append.mpr ⟨?_, ?_⟩, ?_⟩
  · exact Json.Members.ofOption_plain (fun id => Json.isPlain_int (Json.int64_inRange id)) _ _
  · exact List.forall_mem_cons.mpr ⟨axes, List.forall_mem_singleton.mpr record.buttons.toJson_plain⟩
  · exact Json.Members.ofOption_plain (fun value => Json.isPlain_int (code value)) _ _

theorem toMembers_nodup (record : StageRecord) : (record.toMembers.map Prod.fst).Nodup := by
  obtain ⟨reportId, axes, buttons, hat⟩ := record
  cases reportId <;> cases hat <;>
    simp [toMembers, Json.Members.ofOption]

variable {record : StageRecord} {members : Json.Members}

theorem member?_toMembers (record : StageRecord) (key : String) :
    member? key record.toMembers =
      if key = "report_id" then record.reportId.map fun id => .int id.toInt
      else if key = "axes" then some (.arr (record.axes.map fun value => .int value.toInt))
      else if key = "btns" then some record.buttons.toJson
      else if key = "hat" then record.hat.map fun code => .int code.toNat
      else none := by
  simp only [toMembers, Json.member?_append, Json.member?_ofOption, member?]
  grind

/-- Any members that agree with those of a record on its fields are read as the record. -/
theorem ofMembers?_eq
    (same : ∀ key, key ≠ tagKey → member? key members = member? key record.toMembers) :
    ofMembers? members = some record := by
  have fields (key : String) (field : key ≠ tagKey) := (same key field).trans (record.member?_toMembers key)
  have reportId : members.optional? "report_id" Json.int64? = some record.reportId :=
    Json.Members.optional?_eq Json.int64?_toInt (fun _ => nofun) (fields "report_id" (by decide))
  have axes : members.defaulted? "axes" [] (Json.listOf? Json.int32?) = some record.axes := by
    rw [Json.Members.defaulted?_eq [] (fields "axes" (by decide)), Json.listOf?_map Json.int32?_toInt]
  have buttons : members.defaulted? "btns" (.word 0) ButtonField.ofJson? = some record.buttons := by
    rw [Json.Members.defaulted?_eq _ (fields "btns" (by decide)), ButtonField.ofJson?_toJson]
  have hat : members.optional? "hat" Json.uint8? = some record.hat :=
    Json.Members.optional?_eq Json.uint8?_toNat (fun _ => nofun) (fields "hat" (by decide))
  rw [ofMembers?, reportId, axes, buttons, hat]
  rfl

end StageRecord

namespace Record

/-- Under the tag of a stage, the members of a stage record are a record of that stage. -/
theorem ofTagged_stage (which : Stage) (record : StageRecord) :
    ofTagged (tagged which.tag (.obj (sortMembers record.toMembers))) = .ok (.stage which record) := by
  have tag : member? tagKey (tagged which.tag (.obj (sortMembers record.toMembers))) =
      some (.str which.tag) := by
    rw [tagged, Json.member?_insertMember, if_pos rfl]
  have known : Stage.ofTag? which.tag = some which := by cases which <;> decide
  have body : StageRecord.ofMembers? (tagged which.tag (.obj (sortMembers record.toMembers))) =
      some record := by
    refine StageRecord.ofMembers?_eq fun key field => ?_
    rw [tagged, Json.member?_insertMember, if_neg fun same => field same.symm]
    exact Json.member?_sortMembers_of_nodup key record.toMembers_nodup
  rw [ofTagged, tag]
  simp only [Option.bind_some, Json.string?, ofBody?, known, body, Option.map_some]

/-- A member whose key is the tag of no record is a record of no known kind. -/
theorem ofTagged_unknown {key : String} (unknown : ∀ members, ofBody? key members = some .unknown)
    (body : Json) : ofTagged (tagged key body) = .ok .unknown := by
  have tag : member? tagKey (tagged key body) = some (.str key) := by
    simp only [tagged, Json.member?_insertMember, if_true]
  rw [ofTagged, tag]
  simp only [Option.bind_some, Json.string?, unknown]

end Record

end PadBench
