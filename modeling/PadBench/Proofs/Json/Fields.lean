import Mathlib.Algebra.Group.Nat.Defs
import PadBench.Json.Fields
import PadBench.Proofs.Json.RoundTrip

/-!
Typed values through JSON, and the members of an object once they have been put in order.

* A number of a type is read back as itself, and so is a list of such;
* `member?_sortMembers`: putting members in order keeps, for each key, the last of its members.
-/
namespace PadBench.Json

theorem int32?_toInt (value : Int32) : int32? (.int value.toInt) = some value := by
  have low := value.le_toInt
  have high := value.toInt_lt
  have within : -2147483648 ≤ value.toInt ∧ value.toInt ≤ 2147483647 := by omega
  rw [int32?, intBetween?, if_pos within, Option.map_some, Int32.ofInt_toInt]

theorem int64?_toInt (value : Int64) : int64? (.int value.toInt) = some value := by
  have low := value.le_toInt
  have high := value.toInt_lt
  have within : -9223372036854775808 ≤ value.toInt ∧ value.toInt ≤ 9223372036854775807 := by omega
  rw [int64?, intBetween?, if_pos within, Option.map_some, Int64.ofInt_toInt]

theorem uint8?_toNat (value : UInt8) : uint8? (.int value.toNat) = some value := by
  have high := value.toNat_lt
  have within : (0 : Int) ≤ value.toNat ∧ (value.toNat : Int) ≤ 255 := by omega
  rw [uint8?, intBetween?, if_pos within, Option.map_some, Int.toNat_natCast, UInt8.ofNat_toNat]

theorem uint32?_toNat (value : UInt32) : uint32? (.int value.toNat) = some value := by
  have high := value.toNat_lt
  have within : (0 : Int) ≤ value.toNat ∧ (value.toNat : Int) ≤ 4294967295 := by omega
  rw [uint32?, intBetween?, if_pos within, Option.map_some, Int.toNat_natCast, UInt32.ofNat_toNat]

/-- A list is read back if each of its items is. -/
theorem listOf?_map {α : Type} {write : α → Json} {read : Json → Option α}
    (back : ∀ value, read (write value) = some value) (values : List α) :
    listOf? read (.arr (values.map write)) = some values := by
  rw [listOf?]
  induction values with
  | nil => rfl
  | cons value values ih => rw [List.map_cons, List.mapM_cons, back, ih]; rfl

theorem int32_inRange (value : Int32) : Numeral.InRange value.toInt := by
  have low := value.le_toInt
  have high := value.toInt_lt
  simp only [Numeral.InRange, Numeral.leastInt, Numeral.greatestInt]
  omega

theorem int64_inRange (value : Int64) : Numeral.InRange value.toInt := by
  have low := value.le_toInt
  have high := value.toInt_lt
  simp only [Numeral.InRange, Numeral.leastInt, Numeral.greatestInt]
  omega

theorem natural_inRange {value : Nat} (short : value < 2 ^ 32) : Numeral.InRange value := by
  simp only [Numeral.InRange, Numeral.leastInt, Numeral.greatestInt]
  omega

/-- A scalar or a list of scalars: it can be printed, and it is read back as it is. -/
structure IsPlain (value : Json) : Prop where
  whole : value.IsWhole
  shallow : value.depth ≤ 1
  ordered : value.sorted = value

theorem isPlain_int {value : Int} (inRange : Numeral.InRange value) : IsPlain (.int value) :=
  ⟨inRange, Nat.zero_le 1, rfl⟩

theorem isPlain_ints {α : Type} {number : α → Int} (inRange : ∀ value, Numeral.InRange (number value))
    (values : List α) : IsPlain (.arr (values.map fun value => .int (number value))) := by
  have items : ItemsWhole (values.map fun value => .int (number value)) ∧
      itemsDepth (values.map fun value => .int (number value)) = 0 ∧
      sortedItems (values.map fun value => .int (number value)) =
        values.map fun value => .int (number value) := by
    induction values with
    | nil => exact ⟨trivial, rfl, rfl⟩
    | cons value values ih =>
      obtain ⟨whole, flat, same⟩ := ih
      refine ⟨⟨inRange value, whole⟩, ?_, ?_⟩
      · rw [List.map_cons, itemsDepth, flat]
        rfl
      · rw [List.map_cons, sortedItems, same]
        rfl
  obtain ⟨whole, flat, same⟩ := items
  exact ⟨whole, Nat.le_of_eq (congrArg (· + 1) flat), congrArg Json.arr same⟩

/-- Members with plain values keep them. -/
theorem members_of_plain {members : List (String × Json)} (plain : ∀ member ∈ members, member.2.IsPlain) :
    MembersWhole members ∧ membersDepth members ≤ 1 ∧ sortedMembers members = members := by
  induction members with
  | nil => exact ⟨trivial, Nat.zero_le 1, rfl⟩
  | cons member members ih =>
    obtain ⟨key, value⟩ := member
    obtain ⟨here, there⟩ := List.forall_mem_cons.mp plain
    obtain ⟨whole, shallow, same⟩ := ih there
    refine ⟨⟨here.whole, whole⟩, Nat.max_le.mpr ⟨here.shallow, shallow⟩, ?_⟩
    rw [sortedMembers, here.ordered, same]

theorem member?_cons (key other : String) (value : Json) (members : List (String × Json)) :
    member? key ((other, value) :: members) =
      if other = key then some value else member? key members := rfl

/-- Setting a member sets it and no other. -/
theorem member?_insertMember (key other : String) (value : Json) (members : List (String × Json)) :
    member? key (insertMember other value members) =
      if other = key then some value else member? key members := by
  induction members with
  | nil => rfl
  | cons member members ih =>
    obtain ⟨first, old⟩ := member
    rw [insertMember]
    split
    · rename_i same
      subst same
      rw [member?_cons, member?_cons]
      split <;> rfl
    · rename_i differs
      split
      · exact member?_cons key other value _
      · rw [member?_cons, ih, member?_cons]
        split
        · rename_i here
          rw [if_neg fun there => differs (there.trans here.symm)]
        · rfl

theorem member?_append (key : String) (members more : List (String × Json)) :
    member? key (members ++ more) = (member? key members).or (member? key more) := by
  induction members with
  | nil => rfl
  | cons member members ih =>
    obtain ⟨other, value⟩ := member
    rw [List.cons_append, member?_cons, member?_cons, ih]
    split <;> rfl

/-- Of several members with one key the last is kept. -/
theorem member?_sortMembers (key : String) (members : List (String × Json)) :
    member? key (sortMembers members) = member? key members.reverse := by
  have insertAll : ∀ done, member? key (members.foldl (fun sorted member =>
      insertMember member.1 member.2 sorted) done) =
        (member? key members.reverse).or (member? key done) := by
    induction members with
    | nil => exact fun _ => rfl
    | cons member members ih =>
      intro done
      obtain ⟨other, value⟩ := member
      rw [List.foldl_cons, ih, member?_insertMember, List.reverse_cons, member?_append, member?_cons]
      cases member? key members.reverse with
      | some found => rfl
      | none =>
        simp only [Option.none_or]
        split <;> rfl
  have inserting : sortMembers members =
      members.foldl (fun sorted member => insertMember member.1 member.2 sorted) [] := rfl
  rw [inserting, insertAll, member?, Option.or_none]

theorem member?_eq_none {key : String} {members : List (String × Json)}
    (absent : key ∉ members.map Prod.fst) : member? key members = none := by
  induction members with
  | nil => rfl
  | cons member members ih =>
    obtain ⟨other, value⟩ := member
    rw [List.map_cons, List.mem_cons, not_or] at absent
    rw [member?_cons, if_neg fun same => absent.1 same.symm, ih absent.2]

/-- Where no key is there twice, putting members in order loses none. -/
theorem member?_sortMembers_of_nodup (key : String) {members : List (String × Json)}
    (distinct : (members.map Prod.fst).Nodup) : member? key (sortMembers members) = member? key members := by
  rw [member?_sortMembers]
  induction members with
  | nil => rfl
  | cons member members ih =>
    obtain ⟨other, value⟩ := member
    rw [List.map_cons, List.nodup_cons] at distinct
    rw [List.reverse_cons, member?_append, ih distinct.2, member?_cons, member?_cons]
    split
    · rename_i here
      rw [← here, member?_eq_none distinct.1]
      rfl
    · exact Option.or_none

theorem member?_ofOption {α : Type} (key other : String) (write : α → Json) (value : Option α) :
    member? key (Members.ofOption other write value) =
      if other = key then value.map write else none := by
  cases value with
  | none => exact (ite_self none).symm
  | some value => rfl

theorem Members.ofOption_plain {α : Type} {write : α → Json} (plain : ∀ value, (write value).IsPlain)
    (key : String) (value : Option α) :
    ∀ member ∈ Members.ofOption key write value, member.2.IsPlain := by
  cases value with
  | none => exact nofun
  | some value => exact List.forall_mem_singleton.mpr (plain value)

namespace Members

variable {α : Type} {members : Members} {key : String} {read : Json → Option α}

theorem defaulted?_eq {json : Json} (default : α) (found : member? key members = some json) :
    defaulted? members key default read = read json := by
  rw [defaulted?, found]

/-- An optional value is read back if it is never written as `null`. -/
theorem optional?_eq {write : α → Json} (back : ∀ value, read (write value) = some value)
    (present : ∀ value, write value ≠ .null) {value : Option α}
    (found : member? key members = value.map write) :
    optional? members key read = some value := by
  rw [optional?, found]
  cases value with
  | none => rfl
  | some value =>
    rw [Option.map_some]
    split
    · rename_i absent
      cases absent
    · rename_i isNull
      exact absurd (Option.some.inj isNull) (present value)
    · rename_i json _ written
      cases written
      rw [back, Option.map_some]

end Members

end PadBench.Json
