import PadBench.Json.Printing
import PadBench.Proofs.Record.Bodies

/-!
Records survive being printed.

* `ofLine?_render`: the compact text of a record is a line that holds the record and nothing else;
* `survives_printing`: so are the records of any line, when each is printed on a line of its own.
-/
namespace PadBench.Record

open Json (member? sortMembers sortedMembers)

/-- The members of a printed record, in the order they are read in. -/
def readMembers (record : Record) : Json.Members :=
  sortMembers (sortedMembers ((tagKey, .str record.tag) :: record.bodyMembers))

theorem member?_readMembers (record : Record) (key : String) :
    member? key record.readMembers =
      if tagKey = key then some (.str record.tag) else member? key (sortedMembers record.bodyMembers) := by
  have distinct : ((sortedMembers ((tagKey, .str record.tag) :: record.bodyMembers)).map Prod.fst).Nodup := by
    rw [Json.keys_sortedMembers]
    exact record.keys_nodup
  rw [readMembers, Json.member?_sortMembers_of_nodup key distinct]
  rfl

theorem object?_render (record : Record) :
    object? record.toJson.render = some record.readMembers := by
  obtain ⟨whole, shallow⟩ := record.bodyMembers_printable
  refine object?_chars [] ⟨trivial, whole⟩ ?_ ?_ nofun
  · simp only [Json.membersDepth, Json.depth, Json.deepest]
    omega
  · rw [Json.render, String.toList_ofList, List.append_nil]
    rfl

theorem ofLine?_render (record : Record) : ofLine? record.toJson.render = .ok (some [record]) := by
  have tagged : member? tagKey record.readMembers = some (.str record.tag) := by
    rw [member?_readMembers, if_pos rfl]
  have body : ofBody? record.tag record.readMembers = some record := by
    refine ofBody?_eq fun key named => ?_
    rw [member?_readMembers, if_neg (Ne.symm named)]
  rw [ofLine?, object?_render]
  simp only [ofObject, ofTagged, tagged, Option.bind_some, Json.string?, body]
  rfl

theorem mapM_ofLine?_render (records : List Record) :
    (records.map fun record => record.toJson.render).mapM ofLine? =
      .ok (records.map fun record => some [record]) := by
  induction records with
  | nil => rfl
  | cons record records ih =>
    rw [List.map_cons, List.mapM_cons, ofLine?_render, ih]
    rfl

/-- A printed record is read back, and so are the records of any line when each is printed on a line of its
own. -/
theorem survives_printing :
    (∀ record : Record, ofLine? record.toJson.render = .ok (some [record])) ∧
    ∀ line records, ofLine? line = .ok (some records) →
      (records.map fun record => record.toJson.render).mapM ofLine? =
        .ok (records.map fun record => some [record]) :=
  ⟨ofLine?_render, fun _ records _ => mapM_ofLine?_render records⟩

/-- A line in the keyed framing, with an empty list of words for buttons and a body that is no object. -/
theorem survives_printing_keyed :
    ofLine? "\x7b\"mapped_input\": \x7b\"btns\": [], \"hat\": null\x7d, \"x\": true\x7d" =
        .ok (some [.stage .mapped ⟨none, [], .words [], none⟩, .unknown]) ∧
      ([Record.stage .mapped ⟨none, [], .words [], none⟩, .unknown].map fun record =>
          record.toJson.render).mapM ofLine? =
        .ok [some [.stage .mapped ⟨none, [], .words [], none⟩], some [.unknown]] := by
  have read : ofLine? "\x7b\"mapped_input\": \x7b\"btns\": [], \"hat\": null\x7d, \"x\": true\x7d" =
      .ok (some [.stage .mapped ⟨none, [], .words [], none⟩, .unknown]) := by cbv
  exact ⟨read, survives_printing.2 _ _ read⟩

end PadBench.Record
