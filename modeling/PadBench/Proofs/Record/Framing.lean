import Mathlib.Data.List.Forall2
import PadBench.Proofs.Json.Order
import PadBench.Record.Line
import PadBench.Record.Observation

/-!
The two framings of records.

* `ofTagged_congr`: a tagged object is read by what is found under its keys;
* `IsTagged.ofObject_eq`: every object that a member stands for is read as that member;
* `object?_eq`: the object on a line is the members of its text, put in order;
* `framings_agree`: an object without a tag is read as the tagged objects that its members stand for, in
  the order of their keys and up to the first that cannot be read.
-/
namespace PadBench

open Json (member? sortMembers)

namespace Record

section Refusal

variable {α β ε : Type} {f : α → Except ε β} {first : α} {items : List α} {error : ε}

theorem mapM_cons_error (refused : f first = .error error) : (first :: items).mapM f = .error error := by
  rw [List.mapM_cons, refused]
  rfl

theorem mapM_cons_ok {value : β} (read : f first = .ok value) :
    (first :: items).mapM f = (items.mapM f).map (value :: ·) := by
  rw [List.mapM_cons, read]
  rfl

theorem map_eq_error_iff {γ : Type} {result : Except ε β} {g : β → γ} :
    result.map g = .error error ↔ result = .error error := by
  cases result with
  | error refused => simp [Except.map]
  | ok value => simp [Except.map]

/-- Items are refused if one of them is. -/
theorem mapM_refused_iff :
    (∃ error, items.mapM f = .error error) ↔ ∃ item ∈ items, ∃ error, f item = .error error := by
  induction items with
  | nil =>
    constructor
    · rintro ⟨_, same⟩
      cases same
    · exact nofun
  | cons first items ih =>
    rw [List.exists_mem_cons_iff]
    cases here : f first with
    | error error => exact ⟨fun _ => .inl ⟨error, rfl⟩, fun _ => ⟨error, mapM_cons_error here⟩⟩
    | ok value => simp only [mapM_cons_ok here, map_eq_error_iff, ih, reduceCtorEq, exists_false, false_or]

/-- Items are refused as the first is that cannot be read. -/
theorem mapM_eq_error_iff :
    items.mapM f = .error error ↔
      ∃ before item after, items = before ++ item :: after ∧
        (∀ earlier ∈ before, ∃ value, f earlier = .ok value) ∧ f item = .error error := by
  induction items with
  | nil =>
    constructor
    · exact nofun
    · rintro ⟨before, item, after, shape, _⟩
      cases before <;> cases shape
  | cons first items ih =>
    constructor
    · intro refused
      cases here : f first with
      | error stopped =>
        rw [mapM_cons_error here] at refused
        cases refused
        exact ⟨[], first, items, rfl, nofun, here⟩
      | ok value =>
        rw [mapM_cons_ok here, map_eq_error_iff, ih] at refused
        obtain ⟨before, item, after, rfl, readable, failed⟩ := refused
        have readable := List.forall_mem_cons.mpr ⟨⟨value, here⟩, readable⟩
        exact ⟨first :: before, item, after, rfl, readable, failed⟩
    · rintro ⟨before, item, after, shape, readable, failed⟩
      cases before with
      | nil =>
        cases shape
        exact mapM_cons_error failed
      | cons earlier before =>
        cases shape
        obtain ⟨⟨value, here⟩, readable⟩ := List.forall_mem_cons.mp readable
        rw [mapM_cons_ok here, map_eq_error_iff, ih]
        exact ⟨before, item, after, rfl, readable, failed⟩

/-- Items that are all read as the same. -/
theorem mapM_eq_replicate {value : β} (read : ∀ item ∈ items, f item = .ok value) :
    items.mapM f = .ok (List.replicate items.length value) := by
  induction items with
  | nil => rfl
  | cons first items ih =>
    obtain ⟨here, there⟩ := List.forall_mem_cons.mp read
    rw [mapM_cons_ok here, ih there]
    rfl

end Refusal

section Tagged

variable {members more object : Json.Members} {tag key : String} {body : Json}

/-- A body is read by what is found under its keys. -/
theorem ofBody?_congr (same : ∀ key, member? key members = member? key more) :
    ofBody? tag members = ofBody? tag more := by
  simp only [ofBody?, StageRecord.ofMembers?, DeviceInfo.ofMembers?, DeviceConnection.ofMembers?,
    CalibrationReport.ofMembers?, ParsedReport.ofMembers?, Json.Members.required?, Json.Members.optional?,
    Json.Members.defaulted?, same]

theorem ofTagged_congr (same : ∀ key, member? key members = member? key more) :
    ofTagged members = ofTagged more := by
  have body (tag : String) : ofBody? tag members = ofBody? tag more := ofBody?_congr same
  simp only [ofTagged, same, body]

/-- The members of a body, of which a value that is no object has none. -/
def fields : Json → Json.Members
  | .obj members => members
  | _ => []

/-- The object holds what the member's body holds, but for the member's key as its tag. -/
def IsTagged (member : String × Json) (object : Json.Members) : Prop :=
  ∀ key, member? key object = if tagKey = key then some (.str member.1) else member? key (fields member.2)

theorem tagged_isTagged (member : String × Json) : IsTagged member (tagged member.1 member.2) := by
  intro key
  obtain ⟨tag, body⟩ := member
  have shape : tagged tag body = Json.insertMember tagKey (.str tag) (fields body) := by
    cases body <;> rfl
  rw [shape]
  exact Json.member?_insertMember key tagKey (.str tag) (fields body)

/-- Every object that a member stands for is read as the member. -/
theorem IsTagged.ofObject_eq {member : String × Json} (stands : IsTagged member object) :
    ofObject object = (ofTagged (tagged member.1 member.2)).map ([·]) := by
  have tag : member? tagKey object = some (.str member.1) := by
    rw [stands, if_pos rfl]
  have same : ofTagged object = ofTagged (tagged member.1 member.2) := by
    apply ofTagged_congr
    intro key
    rw [stands, tagged_isTagged]
  rw [ofObject, tag, ← same]

/-- A member that cannot be read is refused under its key. -/
theorem ofObject_tagged_error {malformed : Malformed}
    (refused : ofObject (tagged key body) = .error malformed) : malformed = ⟨key⟩ := by
  have tag : member? tagKey (tagged key body) = some (.str key) := by
    rw [tagged_isTagged (key, body), if_pos rfl]
  rw [(tagged_isTagged (key, body)).ofObject_eq, map_eq_error_iff] at refused
  simp only [ofTagged, tag, Option.bind_some, Json.string?] at refused
  split at refused
  · cases refused
    rfl
  · cases refused

/-- An object without a tag is read as the objects that its members stand for, one after the other. -/
theorem ofObject_untagged {objects : List Json.Members} (untagged : member? tagKey members = none)
    (stand : List.Forall₂ IsTagged members objects) :
    ofObject members = (objects.mapM ofObject).map List.flatten := by
  rw [ofObject, untagged]
  clear untagged
  induction stand with
  | nil => rfl
  | @cons member object members objects here _ ih =>
    simp only at ih ⊢
    rw [List.mapM_cons, List.mapM_cons, ih, here.ofObject_eq]
    cases ofTagged (tagged member.1 member.2) with
    | error refused => rfl
    | ok record => cases objects.mapM ofObject <;> rfl

end Tagged

/-- The members of the object on a line, in the order of the text. -/
def lineMembers? (line : String) : Option Json.Members :=
  Json.writtenMembers? (Text.trimBlanks line.toList)

/-- The object on a line is the members of its text, put in order. -/
theorem object?_eq (line : String) : object? line = (lineMembers? line).map sortMembers := by
  rw [object?, lineMembers?]
  split
  · rename_i rest shape
    rw [shape, Json.parse?_openObject]
    cases Json.writtenMembers? ('\x7b' :: rest) <;> rfl
  · rename_i other
    rw [Json.writtenMembers?]
    · rfl
    · exact other

/-- A line is read the same with its members in another order, if no key is there twice. -/
theorem ofLine?_perm {line other : String} {written more : Json.Members}
    (read : lineMembers? line = some written) (again : lineMembers? other = some more)
    (distinct : (written.map Prod.fst).Nodup) (reordered : written.Perm more) :
    ofLine? other = ofLine? line := by
  rw [ofLine?, ofLine?, object?_eq, object?_eq, read, again]
  rw [Option.map_some, Option.map_some, Json.sortMembers_perm reordered distinct]

/-- An object without a tag is read as the tagged objects its members stand for, in the order of their
keys, and refused for the first of them that is. -/
theorem framings_agree {line : String} {members : Json.Members} (parsed : object? line = some members)
    (untagged : member? tagKey members = none) :
    (∃ written, lineMembers? line = some written ∧ Json.InByteOrder members written) ∧
    (∀ objects, List.Forall₂ IsTagged members objects →
      ofLine? line = (objects.mapM ofObject).map fun records => some records.flatten) ∧
    ((∃ malformed, ofLine? line = .error malformed) ↔
      ∃ member ∈ members, ∃ malformed, ofObject (tagged member.1 member.2) = .error malformed) ∧
    (∀ malformed, ofLine? line = .error malformed ↔
      ∃ before key body after, members = before ++ (key, body) :: after ∧
        (∀ earlier ∈ before, ∃ records, ofObject (tagged earlier.1 earlier.2) = .ok records) ∧
        ofObject (tagged key body) = .error malformed ∧ malformed = ⟨key⟩) ∧
    ∀ other written more, lineMembers? line = some written → lineMembers? other = some more →
      (written.map Prod.fst).Nodup → written.Perm more →
      ofLine? other = ofLine? line ∧
        (listOfLine other).map Observation.ofRecords = (listOfLine line).map Observation.ofRecords := by
  have read : ofLine? line = (ofObject members).map some := by rw [ofLine?, parsed]
  have each : ofObject members = (members.mapM fun member => ofObject (tagged member.1 member.2)).map
      List.flatten := by
    have stand : List.Forall₂ IsTagged members (members.map fun member => tagged member.1 member.2) := by
      rw [List.forall₂_map_right_iff, List.forall₂_same]
      exact fun member _ => tagged_isTagged member
    rw [ofObject_untagged untagged stand, List.mapM_map]
    rfl
  have refused (malformed : Malformed) : ofLine? line = .error malformed ↔
      (members.mapM fun member => ofObject (tagged member.1 member.2)) = .error malformed := by
    rw [read, each, map_eq_error_iff, map_eq_error_iff]
  refine ⟨?_, ?_, ?_, ?_, ?_⟩
  · rw [object?_eq] at parsed
    obtain ⟨written, there, rfl⟩ := Option.map_eq_some_iff.mp parsed
    exact ⟨written, there, Json.sortMembers_inByteOrder written⟩
  · intro objects stand
    rw [read, ofObject_untagged untagged stand]
    cases objects.mapM ofObject <;> rfl
  · simp only [refused]
    exact mapM_refused_iff
  · intro malformed
    rw [refused, mapM_eq_error_iff]
    constructor
    · rintro ⟨before, ⟨key, body⟩, after, shape, readable, failed⟩
      exact ⟨before, key, body, after, shape, readable, failed, ofObject_tagged_error failed⟩
    · rintro ⟨before, key, body, after, shape, readable, failed, _⟩
      exact ⟨before, (key, body), after, shape, readable, failed⟩
  · intro other written more there again distinct reordered
    have same := ofLine?_perm there again distinct reordered
    exact ⟨same, by rw [listOfLine, listOfLine, same]⟩

/-- A member of no known kind and a stage whose body has a tag of its own, in either order. -/
theorem framings_agree_reordered :
    object? "\x7b\"x\":null,\"mapped_input\":\x7b\"log_type\":true,\"btns\":[]\x7d\x7d" =
        some [("mapped_input", .obj [("btns", .arr []), ("log_type", .bool true)]), ("x", .null)] ∧
      member? tagKey
        [("mapped_input", .obj [("btns", .arr []), ("log_type", .bool true)]), ("x", .null)] = none ∧
      ofLine? "\x7b\"mapped_input\":\x7b\"log_type\":true,\"btns\":[]\x7d,\"x\":null\x7d" =
        ofLine? "\x7b\"x\":null,\"mapped_input\":\x7b\"log_type\":true,\"btns\":[]\x7d\x7d" := by
  have parsed : object? "\x7b\"x\":null,\"mapped_input\":\x7b\"log_type\":true,\"btns\":[]\x7d\x7d" =
      some [("mapped_input", .obj [("btns", .arr []), ("log_type", .bool true)]), ("x", .null)] := by cbv
  have untagged : member? tagKey
      [("mapped_input", .obj [("btns", .arr []), ("log_type", .bool true)]), ("x", .null)] = none := by
    simp [member?, tagKey]
  have written : lineMembers? "\x7b\"x\":null,\"mapped_input\":\x7b\"log_type\":true,\"btns\":[]\x7d\x7d" =
      some [("x", .null), ("mapped_input", .obj [("btns", .arr []), ("log_type", .bool true)])] := by cbv
  have again : lineMembers? "\x7b\"mapped_input\":\x7b\"log_type\":true,\"btns\":[]\x7d,\"x\":null\x7d" =
      some [("mapped_input", .obj [("btns", .arr []), ("log_type", .bool true)]), ("x", .null)] := by cbv
  obtain ⟨_, _, _, _, order⟩ := framings_agree parsed untagged
  exact ⟨parsed, untagged, (order _ _ _ written again (by simp) (List.Perm.swap _ _ _)).1⟩

end Record

end PadBench
