import PadBench.Proofs.Json.Shapes
import PadBench.Proofs.Record.Framing
import PadBench.Proofs.Record.Stages

/-!
The lines that are refused.

* `knownFields`: the tags that are known, and the fields that the body of each has;
* `ofBody?_eq_none_iff`: a body is refused for a field of a known tag that it does not fit;
* `refused_iff_malformed`: a line is refused for such a body, or for a tag that is no text; a line without a
  known tag holds unknown records, and one that is no object holds none.
-/
namespace PadBench

open Json

variable {members : Members}

/-- One word, or a list of words. -/
def IsButtons : Shape := fun value => IsUInt32 value ∨ IsList IsUInt32 value

theorem ButtonField.takes_ofJson? : Takes ButtonField.ofJson? IsButtons := by
  intro value
  rw [ofJson?, IsButtons, ← takes_uint32? value, ← takes_listOf? takes_uint32? value]
  cases value.uint32? with
  | none => simp
  | some word => simp

def StageRecord.fields : List Field :=
  [⟨"report_id", .optional, IsInt64⟩, ⟨"axes", .defaulted, IsList IsInt32⟩, ⟨"btns", .defaulted, IsButtons⟩,
    ⟨"hat", .optional, IsUInt8⟩]

theorem StageRecord.isSome_ofMembers?_iff :
    (ofMembers? members).isSome = true ↔ ∀ field ∈ fields, field.Fits members := by
  simp only [fields, List.forall_mem_cons, ← isSome_optional?_iff takes_int64?,
    ← isSome_defaulted?_iff [] (takes_listOf? takes_int32?),
    ← isSome_defaulted?_iff (.word 0) ButtonField.takes_ofJson?, ← isSome_optional?_iff takes_uint8?]
  refine isSome_bind_iff fun _ => isSome_bind_iff fun _ => isSome_bind_iff fun _ => isSome_bind_iff fun _ => ?_
  exact iff_of_true rfl nofun

def DeviceConnection.fields : List Field :=
  [⟨"handle", .required, IsInt64⟩, ⟨"device_id", .required, IsInt64⟩, ⟨"device_type", .optional, IsInt64⟩]

theorem DeviceConnection.isSome_ofMembers?_iff :
    (ofMembers? members).isSome = true ↔ ∀ field ∈ fields, field.Fits members := by
  simp only [fields, List.forall_mem_cons, ← isSome_required?_iff takes_int64?,
    ← isSome_optional?_iff takes_int64?]
  refine isSome_bind_iff fun _ => isSome_bind_iff fun _ => isSome_bind_iff fun _ => ?_
  exact iff_of_true rfl nofun

def DeviceInfo.fields : List Field :=
  [⟨"device_id", .required, IsInt64⟩, ⟨"device_type", .required, IsInt64⟩,
    ⟨"device_subtype", .required, IsInt64⟩, ⟨"device_name", .optional, IsText⟩]

theorem DeviceInfo.isSome_ofMembers?_iff :
    (ofMembers? members).isSome = true ↔ ∀ field ∈ fields, field.Fits members := by
  simp only [fields, List.forall_mem_cons, ← isSome_required?_iff takes_int64?,
    ← isSome_optional?_iff takes_string?]
  refine isSome_bind_iff fun _ => isSome_bind_iff fun _ => isSome_bind_iff fun _ => isSome_bind_iff fun _ => ?_
  exact iff_of_true rfl nofun

def CalibrationReport.fields : List Field :=
  [⟨"neutral", .required, IsList IsInt32⟩, ⟨"rel_max", .required, IsList IsInt32⟩,
    ⟨"rel_min", .required, IsList IsInt32⟩, ⟨"deadzone", .required, IsList IsInt32⟩]

theorem CalibrationReport.isSome_ofMembers?_iff :
    (ofMembers? members).isSome = true ↔ ∀ field ∈ fields, field.Fits members := by
  simp only [fields, List.forall_mem_cons, ← isSome_required?_iff (takes_listOf? takes_int32?)]
  refine isSome_bind_iff fun _ => isSome_bind_iff fun _ => isSome_bind_iff fun _ => isSome_bind_iff fun _ => ?_
  exact iff_of_true rfl nofun

def HidUsage.fields : List Field :=
  [⟨"usage_page", .defaulted, IsUInt32⟩, ⟨"usage", .defaulted, IsUInt32⟩, ⟨"bit_offset", .defaulted, IsUInt32⟩,
    ⟨"bit_size", .defaulted, IsUInt32⟩]

/-- An object whose fields fit, or as many numbers as there are fields, or fewer. -/
def IsUsage : Shape := fun value =>
  (∃ members, value = .obj members ∧ ∀ field ∈ HidUsage.fields, field.Fits members) ∨
    ∃ items, value = .arr items ∧ items.length ≤ 4 ∧ ∀ item ∈ items, IsUInt32 item

theorem HidUsage.takes_ofJson? : Takes ofJson? IsUsage := by
  intro value
  cases value with
  | obj members =>
    have object : (ofJson? (.obj members)).isSome = true ↔ ∀ field ∈ fields, field.Fits members := by
      simp only [fields, List.forall_mem_cons, ← isSome_defaulted?_iff 0 takes_uint32?]
      refine isSome_bind_iff fun _ => isSome_bind_iff fun _ => isSome_bind_iff fun _ =>
        isSome_bind_iff fun _ => ?_
      exact iff_of_true rfl nofun
    rw [object]
    refine ⟨fun fits => .inl ⟨members, rfl, fits⟩, ?_⟩
    rintro (⟨_, same, fits⟩ | ⟨_, same, _⟩)
    · cases same
      exact fits
    · cases same
  | arr items =>
    have array : (ofJson? (.arr items)).isSome = true ↔ items.length ≤ 4 ∧ ∀ item ∈ items, IsUInt32 item := by
      rw [ofJson?, ← isSome_mapM_iff takes_uint32?]
      cases read : items.mapM uint32? with
      | none => simp
      | some values =>
        rw [← length_of_mapM read]
        by_cases long : 4 < values.length
        · simp [long, Nat.not_le_of_lt long]
        · simp [long, Nat.le_of_not_lt long]
    rw [array]
    refine ⟨fun fits => .inr ⟨items, rfl, fits⟩, ?_⟩
    rintro (⟨_, same, _⟩ | ⟨_, same, fits⟩)
    · cases same
    · cases same
      exact fits
  | null | bool | int | real | str =>
    refine ⟨nofun, ?_⟩
    rintro (⟨_, same, _⟩ | ⟨_, same, _⟩) <;> cases same

def ParsedReport.fields : List Field :=
  [⟨"report_id", .required, IsInt64⟩, ⟨"report_type", .required, IsInt64⟩, ⟨"device_type", .required, IsInt64⟩,
    ⟨"device_subtype", .required, IsInt64⟩, ⟨"usages", .defaulted, IsList IsUsage⟩]

theorem ParsedReport.isSome_ofMembers?_iff :
    (ofMembers? members).isSome = true ↔ ∀ field ∈ fields, field.Fits members := by
  simp only [fields, List.forall_mem_cons, ← isSome_required?_iff takes_int64?,
    ← isSome_defaulted?_iff [] (takes_listOf? HidUsage.takes_ofJson?)]
  refine isSome_bind_iff fun _ => isSome_bind_iff fun _ => isSome_bind_iff fun _ => isSome_bind_iff fun _ =>
    isSome_bind_iff fun _ => ?_
  exact iff_of_true rfl nofun

namespace Record

/-- The tags that are known, each with the fields of its bodies. Any other members of a body are ignored. -/
def knownFields : List (String × List Field) :=
  [("wireless_input", StageRecord.fields), ("generic_input", StageRecord.fields),
    ("mapped_input", StageRecord.fields), ("wired_output", StageRecord.fields),
    ("device_conn", DeviceConnection.fields), ("device_disconn", DeviceConnection.fields),
    ("device_name", DeviceInfo.fields), ("type_update", DeviceInfo.fields),
    ("calib_data", CalibrationReport.fields), ("parsed_hid_report", ParsedReport.fields)]

/-- The tag is known, and the body does not fit one of its fields. -/
def IsMalformed (tag : String) (body : Members) : Prop :=
  ∃ fields, (tag, fields) ∈ knownFields ∧ ∃ field ∈ fields, ¬ field.Fits body

theorem isSome_ofBody?_iff {tag : String} {fields : List Field} (known : (tag, fields) ∈ knownFields) :
    (ofBody? tag members).isSome = true ↔ ∀ field ∈ fields, field.Fits members := by
  have stage (which : Stage) :
      (ofBody? which.tag members).isSome = true ↔ ∀ field ∈ StageRecord.fields, field.Fits members := by
    have known : Stage.ofTag? which.tag = some which := by cases which <;> decide
    rw [ofBody?, known, Option.isSome_map, StageRecord.isSome_ofMembers?_iff]
  have other {α : Type} {read : Option α} {make : α → Record} {fits : Prop}
      (taken : read.isSome = true ↔ fits) : (read.map make).isSome = true ↔ fits := by
    rw [Option.isSome_map, taken]
  simp only [knownFields, List.mem_cons, Prod.mk.injEq, List.not_mem_nil, or_false] at known
  rcases known with ⟨rfl, rfl⟩ | ⟨rfl, rfl⟩ | ⟨rfl, rfl⟩ | ⟨rfl, rfl⟩ | ⟨rfl, rfl⟩ | ⟨rfl, rfl⟩ | ⟨rfl, rfl⟩ |
    ⟨rfl, rfl⟩ | ⟨rfl, rfl⟩ | ⟨rfl, rfl⟩
  · exact stage .wireless
  · exact stage .generic
  · exact stage .mapped
  · exact stage .wired
  · exact other DeviceConnection.isSome_ofMembers?_iff
  · exact other DeviceConnection.isSome_ofMembers?_iff
  · exact other DeviceInfo.isSome_ofMembers?_iff
  · exact other DeviceInfo.isSome_ofMembers?_iff
  · exact other CalibrationReport.isSome_ofMembers?_iff
  · exact other ParsedReport.isSome_ofMembers?_iff

/-- Every body fits a tag that is not known. -/
theorem ofBody?_of_unknown {tag : String} (unknown : tag ∉ knownFields.map Prod.fst)
    (members : Members) : ofBody? tag members = some .unknown := by
  simp only [knownFields, List.map_cons, List.map_nil, List.mem_cons, List.not_mem_nil, or_false, not_or] at unknown
  have noStage : Stage.ofTag? tag = none := by
    rw [Stage.ofTag?, List.find?_eq_none]
    intro which _
    cases which <;> simp [Stage.tag, Ne.symm, unknown]
  simp only [ofBody?, noStage, unknown, if_false]

/-- A body is refused for a field of a known tag. -/
theorem ofBody?_eq_none_iff {tag : String} : ofBody? tag members = none ↔ IsMalformed tag members := by
  constructor
  · intro refused
    by_cases known : tag ∈ knownFields.map Prod.fst
    · obtain ⟨⟨_, fields⟩, there, rfl⟩ := List.mem_map.mp known
      rw [← Option.not_isSome_iff_eq_none, isSome_ofBody?_iff there, Classical.not_forall] at refused
      obtain ⟨field, lacks⟩ := refused
      obtain ⟨has, unfit⟩ := Classical.not_imp.mp lacks
      exact ⟨fields, there, field, has, unfit⟩
    · rw [ofBody?_of_unknown known] at refused
      cases refused
  · rintro ⟨fields, there, field, has, unfit⟩
    rw [← Option.not_isSome_iff_eq_none, isSome_ofBody?_iff there]
    exact fun fits => unfit (fits field has)

/-- The record of a text tag is read from its body. -/
theorem ofTagged_of_text {tag : String} (named : member? tagKey members = some (.str tag)) :
    ofTagged members = match ofBody? tag members with
      | none => .error ⟨tag⟩
      | some record => .ok record := by
  rw [ofTagged, named]
  rfl

theorem ofTagged_refused_iff {tag : String} (named : member? tagKey members = some (.str tag)) :
    (∃ malformed, ofTagged members = .error malformed) ↔ IsMalformed tag members := by
  rw [← ofBody?_eq_none_iff, ofTagged_of_text named]
  cases ofBody? tag members with
  | none => exact iff_of_true ⟨⟨tag⟩, rfl⟩ rfl
  | some record => exact iff_of_false (fun ⟨_, same⟩ => nomatch same) nofun

/-- No field has the key of the tag. -/
theorem key_ne_tagKey {tag : String} {fields : List Field} (known : (tag, fields) ∈ knownFields) {field : Field}
    (has : field ∈ fields) : field.key ≠ tagKey := by
  have each : (knownFields.all fun entry => entry.2.all fun field => field.key != tagKey) = true := by decide
  have here := List.all_eq_true.mp (List.all_eq_true.mp each _ known) field has
  exact bne_iff_ne.mp here

/-- A member's body fits as it is, the tag that is set in it being no field. -/
theorem isMalformed_tagged {tag key : String} {body : Json} :
    IsMalformed tag (tagged key body) ↔ IsMalformed tag (fields body) := by
  refine exists_congr fun entry => and_congr_right fun known => exists_congr fun field => and_congr_right fun has => ?_
  rw [not_iff_not]
  apply Field.fits_congr
  rw [tagged_isTagged (key, body), if_neg (Ne.symm (key_ne_tagKey known has))]

/-- The records that an object holds, each with its tag and the members of its body: the object itself, or
if it has no tag its members. -/
inductive Holds (members : Members) : String → Members → Prop
  | itself {tag : String} (named : member? tagKey members = some (.str tag)) : Holds members tag members
  | member {key : String} {body : Json} (untagged : member? tagKey members = none)
      (there : (key, body) ∈ members) : Holds members key (fields body)

/-- The object has a tag that is no text. -/
def IsMistagged (members : Members) : Prop :=
  ∃ value, member? tagKey members = some value ∧ ¬ IsText value

theorem holds_iff_of_tagged {value : Json} (named : member? tagKey members = some value) {tag : String}
    {body : Members} : Holds members tag body ↔ value = .str tag ∧ body = members := by
  constructor
  · intro held
    cases held with
    | itself found => exact ⟨Option.some.inj (named.symm.trans found), rfl⟩
    | member untagged =>
      rw [named] at untagged
      cases untagged
  · rintro ⟨rfl, rfl⟩
    exact .itself named

theorem holds_iff_of_untagged (untagged : member? tagKey members = none) {tag : String} {body : Members} :
    Holds members tag body ↔ ∃ value, (tag, value) ∈ members ∧ body = fields value := by
  constructor
  · intro held
    cases held with
    | itself found =>
      rw [untagged] at found
      cases found
    | member _ there => exact ⟨_, there, rfl⟩
  · rintro ⟨value, there, rfl⟩
    exact .member untagged there

theorem isMistagged_iff {value : Json} (named : member? tagKey members = some value) :
    IsMistagged members ↔ ¬ IsText value := by
  simp only [IsMistagged, named, Option.some.injEq, exists_eq_left']

theorem ofTagged_of_mistagged {value : Json} (named : member? tagKey members = some value)
    (noText : ¬ IsText value) : ofTagged members = .error ⟨""⟩ := by
  rw [ofTagged, named, Option.bind_some]
  cases value with
  | str tag => exact absurd ⟨tag, rfl⟩ noText
  | null | bool | int | real | arr | obj => rfl

theorem ofTagged_tagged_refused_iff {key : String} {body : Json} :
    (∃ malformed, ofTagged (tagged key body) = .error malformed) ↔ IsMalformed key (fields body) := by
  have named : member? tagKey (tagged key body) = some (.str key) := by
    rw [tagged_isTagged (key, body), if_pos rfl]
  rw [ofTagged_refused_iff named, isMalformed_tagged]

/-- An object is refused for its tag, or for a record that it holds. -/
theorem ofObject_refused_iff : (∃ malformed, ofObject members = .error malformed) ↔
    IsMistagged members ∨ ∃ tag body, Holds members tag body ∧ IsMalformed tag body := by
  cases named : member? tagKey members with
  | some value =>
    simp only [ofObject, named, map_eq_error_iff, isMistagged_iff named, holds_iff_of_tagged named]
    by_cases text : IsText value
    · obtain ⟨tag, rfl⟩ := text
      rw [ofTagged_refused_iff named]
      constructor
      · exact fun malformed => .inr ⟨tag, members, ⟨rfl, rfl⟩, malformed⟩
      · rintro (noText | ⟨_, _, ⟨same, rfl⟩, malformed⟩)
        · exact absurd ⟨tag, rfl⟩ noText
        · cases same
          exact malformed
    · exact iff_of_true ⟨_, ofTagged_of_mistagged named text⟩ (.inl text)
  | none =>
    have tagged : ¬ IsMistagged members := by
      rintro ⟨_, found, _⟩
      rw [named] at found
      cases found
    simp only [ofObject, named, tagged, false_or, holds_iff_of_untagged named]
    rw [mapM_refused_iff]
    constructor
    · rintro ⟨⟨key, body⟩, there, refused⟩
      exact ⟨key, _, ⟨body, there, rfl⟩, ofTagged_tagged_refused_iff.mp refused⟩
    · rintro ⟨key, _, ⟨body, there, rfl⟩, malformed⟩
      exact ⟨(key, body), there, ofTagged_tagged_refused_iff.mpr malformed⟩

/-- How many records an object holds. -/
def recordCount (members : Members) : Nat :=
  match member? tagKey members with
  | some _ => 1
  | none => members.length

/-- An object whose records have tags of no known kind is read. -/
theorem ofObject_of_unknown (tagged : ¬ IsMistagged members)
    (unknown : ∀ tag body, Holds members tag body → tag ∉ knownFields.map Prod.fst) :
    ofObject members = .ok (List.replicate (recordCount members) .unknown) := by
  cases named : member? tagKey members with
  | some value =>
    rw [isMistagged_iff named, Classical.not_not] at tagged
    obtain ⟨tag, rfl⟩ := tagged
    have strange := ofBody?_of_unknown (unknown tag members (.itself named)) members
    simp only [ofObject, recordCount, named, ofTagged_of_text named, strange]
    rfl
  | none =>
    simp only [ofObject, recordCount, named]
    apply mapM_eq_replicate
    intro member there
    have strange := ofBody?_of_unknown (unknown member.1 _ (.member named there))
    exact ofTagged_unknown strange member.2

/-- A line is refused if it is an object with a tag that is no text, or holds a record of a known tag with a
body that does not fit, and for nothing else. A line that is no object is noise, and an object whose tags are
texts of no known kind holds unknown records. -/
theorem refused_iff_malformed (line : String) :
    ((∃ malformed, ofLine? line = .error malformed) ↔ ∃ members, object? line = some members ∧
      (IsMistagged members ∨ ∃ tag body, Holds members tag body ∧ IsMalformed tag body)) ∧
    (ofLine? line = .ok none ↔ object? line = none) ∧
    ∀ members, object? line = some members → ¬ IsMistagged members →
      (∀ tag body, Holds members tag body → tag ∉ knownFields.map Prod.fst) →
      ofLine? line = .ok (some (List.replicate (recordCount members) .unknown)) := by
  cases parsed : object? line with
  | none =>
    have noise : ofLine? line = .ok none := by rw [ofLine?, parsed]
    simp [noise]
  | some members =>
    have read : ofLine? line = (ofObject members).map some := by rw [ofLine?, parsed]
    rw [read]
    refine ⟨?_, ?_, ?_⟩
    · simp only [map_eq_error_iff, ofObject_refused_iff, Option.some.injEq, exists_eq_left']
    · cases ofObject members <;> simp [Except.map]
    · rintro _ ⟨⟩ tagged unknown
      rw [ofObject_of_unknown tagged unknown]
      rfl

/-- A hat code that is a text, and unknown records one of which has a tag in its body. -/
theorem refused_iff_malformed_hat :
    (∃ malformed, ofLine? "\x7b\"wired_output\":\x7b\"hat\":\"up\"\x7d\x7d" = .error malformed) ∧
      object? "\x7b\"rumble\":\x7b\"log_type\":true\x7d,\"axes\":null\x7d" =
        some [("axes", .null), ("rumble", .obj [("log_type", .bool true)])] ∧
      ofLine? "\x7b\"rumble\":\x7b\"log_type\":true\x7d,\"axes\":null\x7d" = .ok (some [.unknown, .unknown]) := by
  have parsed : object? "\x7b\"wired_output\":\x7b\"hat\":\"up\"\x7d\x7d" =
      some [("wired_output", .obj [("hat", .str "up")])] := by cbv
  have object : object? "\x7b\"rumble\":\x7b\"log_type\":true\x7d,\"axes\":null\x7d" =
      some [("axes", .null), ("rumble", .obj [("log_type", .bool true)])] := by cbv
  have unfit : ¬ Field.Fits ⟨"hat", .optional, IsUInt8⟩ [("hat", .str "up")] := by
    rintro (⟨_, same, _⟩ | ⟨_, same⟩) <;> cases same
  have untagged : ¬ IsMistagged [("axes", .null), ("rumble", .obj [("log_type", .bool true)])] := by
    rintro ⟨_, found, _⟩
    cases found
  refine ⟨(refused_iff_malformed _).1.mpr ⟨_, parsed, .inr ⟨_, _, .member rfl (List.mem_singleton_self _),
    StageRecord.fields, by simp [knownFields], _, by simp [StageRecord.fields], unfit⟩⟩, object, ?_⟩
  refine (refused_iff_malformed _).2.2 _ object untagged ?_
  intro tag body held
  cases held with
  | itself named => cases named
  | member _ there =>
    simp only [List.mem_cons, Prod.mk.injEq, List.not_mem_nil, or_false] at there
    rcases there with ⟨rfl, rfl⟩ | ⟨rfl, rfl⟩ <;> simp [knownFields]

/-- An object that holds no record of a known tag, refused since its tag is no text. -/
theorem mistagged_line_is_refused :
    object? "\x7b\"log_type\":true\x7d" = some [("log_type", .bool true)] ∧
      (∀ tag body, ¬ Holds [("log_type", .bool true)] tag body) ∧
      ofLine? "\x7b\"log_type\":true\x7d" = .error ⟨""⟩ := by
  refine ⟨by cbv, ?_, by cbv⟩
  rintro tag body (named | untagged)
  · cases named
  · cases untagged

end Record

end PadBench
