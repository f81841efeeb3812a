import PadBench.Proofs.Json.Fields
import PadBench.Proofs.Text.Order

/-!
The order that the members of an object are kept in.

* `sortMembers_inByteOrder`: ascending in the bytes of their keys, the last of several under one key;
* `eq_of_ascending`: members so ordered are determined by what is found under each key;
* `sortMembers_perm`: so the order they are given in does not count where no key is there twice;
* `sorted_of_isOrdered`, `isOrdered_sorted`: a value is as it is read exactly when its members are in order;
* `parse?_openObject`: an object is read as the members of its text, put in order.
-/
namespace PadBench.Json

section Members

variable {members more : Members} {key : String}

def Ascending (members : Members) : Prop := members.Pairwise fun former later => former.1 < later.1

/-- The members in ascending order of the bytes of their keys; of several under one key the last. -/
structure InByteOrder (ordered members : Members) : Prop where
  ascending : ordered.Pairwise fun former later =>
    Text.Utf8.encode former.1.toList < Text.Utf8.encode later.1.toList
  last : ∀ key, member? key ordered = member? key members.reverse

theorem mem_insertMember {value : Json} {member : String × Json}
    (found : member ∈ insertMember key value members) : member = (key, value) ∨ member ∈ members := by
  induction members with
  | nil => exact .inl (List.mem_singleton.mp found)
  | cons first members ih =>
    obtain ⟨other, old⟩ := first
    rw [insertMember] at found
    split at found
    · rcases List.mem_cons.mp found with here | there
      · exact .inl here
      · exact .inr (List.mem_cons_of_mem _ there)
    · split at found
      · exact List.mem_cons.mp found
      · rcases List.mem_cons.mp found with here | there
        · exact .inr (List.mem_cons.mpr (.inl here))
        · rcases ih there with inserted | kept
          · exact .inl inserted
          · exact .inr (List.mem_cons_of_mem _ kept)

theorem insertMember_ascending (key : String) (value : Json) (ascending : Ascending members) :
    Ascending (insertMember key value members) := by
  induction members with
  | nil => exact List.pairwise_singleton _ _
  | cons first members ih =>
    obtain ⟨other, old⟩ := first
    obtain ⟨before, rest⟩ := List.pairwise_cons.mp ascending
    rw [insertMember]
    split
    · rename_i same
      subst same
      exact List.pairwise_cons.mpr ⟨before, rest⟩
    · rename_i differs
      split
      · rename_i less
        refine List.pairwise_cons.mpr ⟨?_, ascending⟩
        intro member found
        rcases List.mem_cons.mp found with rfl | there
        · exact less
        · exact String.lt_trans less (before member there)
      · rename_i notLess
        have greater : other < key := by
          apply Classical.byContradiction
          intro upTo
          exact differs (String.le_antisymm (String.not_lt.mp upTo) (String.not_lt.mp notLess))
        refine List.pairwise_cons.mpr ⟨?_, ih rest⟩
        intro member found
        rcases mem_insertMember found with rfl | there
        · exact greater
        · exact before member there

theorem sortMembers_ascending (members : Members) : Ascending (sortMembers members) := by
  have insertAll : ∀ done, Ascending done →
      Ascending (members.foldl (fun sorted member => insertMember member.1 member.2 sorted) done) := by
    induction members with
    | nil => exact fun _ ascending => ascending
    | cons member members ih =>
      intro done ascending
      exact ih _ (insertMember_ascending member.1 member.2 ascending)
  exact insertAll [] List.Pairwise.nil

theorem sortMembers_inByteOrder (members : Members) : InByteOrder (sortMembers members) members where
  ascending := (sortMembers_ascending members).imp Text.Utf8.lt_iff_encode_lt.mp
  last key := member?_sortMembers key members

/-- A key before every key is under no member. -/
theorem member?_before (before : ∀ member ∈ members, key < member.1) : member? key members = none := by
  apply member?_eq_none
  intro found
  obtain ⟨member, there, same⟩ := List.mem_map.mp found
  rw [← same] at before
  exact String.lt_irrefl _ (before member there)

/-- Members in order are determined by what is found under each key. -/
theorem eq_of_ascending (ascending : Ascending members) (ascends : Ascending more)
    (same : ∀ key, member? key members = member? key more) : members = more := by
  induction members generalizing more with
  | nil =>
    cases more with
    | nil => rfl
    | cons member more =>
      have found := same member.1
      rw [member?_cons, if_pos rfl] at found
      cases found
  | cons member members ih =>
    obtain ⟨key, value⟩ := member
    obtain ⟨before, rest⟩ := List.pairwise_cons.mp ascending
    cases more with
    | nil =>
      have found := same key
      rw [member?_cons, if_pos rfl] at found
      cases found
    | cons another more =>
      obtain ⟨other, old⟩ := another
      obtain ⟨precedes, others⟩ := List.pairwise_cons.mp ascends
      -- The lesser of the two first keys would be found in one of the lists only.
      have first : key = other := by
        apply String.le_antisymm
        · intro less
          have found := same other
          rw [member?_before, member?_cons, if_pos rfl] at found
          · cases found
          · exact List.forall_mem_cons.mpr ⟨less, fun m there => String.lt_trans less (before m there)⟩
        · intro less
          have found := same key
          rw [member?_cons, if_pos rfl, member?_before] at found
          · cases found
          · exact List.forall_mem_cons.mpr ⟨less, fun m there => String.lt_trans less (precedes m there)⟩
      subst first
      have here := same key
      rw [member?_cons, member?_cons, if_pos rfl, if_pos rfl] at here
      cases here
      congr 1
      apply ih rest others
      intro next
      by_cases named : key = next
      · subst named
        rw [member?_before before, member?_before precedes]
      · have there := same next
        rw [member?_cons, member?_cons, if_neg named, if_neg named] at there
        exact there

/-- What is found under a key does not depend on the order if no key is there twice. -/
theorem member?_perm (key : String) (reordered : members.Perm more) (distinct : (members.map Prod.fst).Nodup) :
    member? key members = member? key more := by
  induction reordered with
  | nil => rfl
  | cons member _ ih =>
    rw [List.map_cons, List.nodup_cons] at distinct
    rw [member?, member?, ih distinct.2]
  | swap former latter members =>
    obtain ⟨⟨key₁, value₁⟩, ⟨key₂, value₂⟩⟩ := former, latter
    simp only [List.map_cons, List.nodup_cons, List.mem_cons, not_or] at distinct
    simp only [member?_cons]
    split
    · rename_i here
      subst here
      rw [if_neg (Ne.symm distinct.1.1)]
    · rfl
  | trans first _ ih ih' =>
    rw [ih distinct]
    apply ih'
    exact (first.map Prod.fst).nodup_iff.mp distinct

theorem sortMembers_perm (reordered : members.Perm more) (distinct : (members.map Prod.fst).Nodup) :
    sortMembers members = sortMembers more := by
  apply eq_of_ascending (sortMembers_ascending members) (sortMembers_ascending more)
  intro key
  rw [member?_sortMembers_of_nodup key distinct, member?_perm key reordered distinct,
    member?_sortMembers_of_nodup key ((reordered.map Prod.fst).nodup_iff.mp distinct)]

theorem nodup_of_ascending (ascending : Ascending members) : (members.map Prod.fst).Nodup :=
  List.pairwise_map.mpr (ascending.imp String.ne_of_lt)

theorem sortMembers_of_ascending (ascending : Ascending members) : sortMembers members = members :=
  eq_of_ascending (sortMembers_ascending members) ascending fun key =>
    member?_sortMembers_of_nodup key (nodup_of_ascending ascending)

/-- A member that is there after some have been put in was there before, or is one of them. -/
theorem mem_insertMembers {member : String × Json} (done : Members)
    (found : member ∈ members.foldl (fun sorted next => insertMember next.1 next.2 sorted) done) :
    member ∈ done ∨ member ∈ members := by
  induction members generalizing done with
  | nil => exact .inl found
  | cons first members ih =>
    rcases ih _ found with inserted | later
    · rcases mem_insertMember inserted with rfl | before
      · exact .inr List.mem_cons_self
      · exact .inl before
    · exact .inr (List.mem_cons_of_mem _ later)

theorem mem_of_mem_sortMembers {member : String × Json} (found : member ∈ sortMembers members) :
    member ∈ members :=
  (mem_insertMembers [] found).resolve_left List.not_mem_nil

end Members

mutual

/-- The members of each object in the value are in the order they are kept in after reading. -/
def IsOrdered : Json → Prop
  | .arr items => ItemsOrdered items
  | .obj members => Ascending members ∧ MembersOrdered members
  | _ => True

def ItemsOrdered : List Json → Prop
  | [] => True
  | item :: items => item.IsOrdered ∧ ItemsOrdered items

def MembersOrdered : List (String × Json) → Prop
  | [] => True
  | (_, value) :: members => value.IsOrdered ∧ MembersOrdered members

end

mutual

/-- A value in order is the one that is read from its text. -/
theorem sorted_of_isOrdered : ∀ {value : Json}, value.IsOrdered → value.sorted = value
  | .arr _, ordered => congrArg Json.arr (sortedItems_of_ordered ordered)
  | .obj _, ⟨ascending, ordered⟩ => by
    rw [sorted, sortedMembers_of_ordered ordered, sortMembers_of_ascending ascending]
  | .null, _ => rfl
  | .bool _, _ => rfl
  | .int _, _ => rfl
  | .real _, _ => rfl
  | .str _, _ => rfl

theorem sortedItems_of_ordered : ∀ {items : List Json}, ItemsOrdered items → sortedItems items = items
  | [], _ => rfl
  | _ :: _, ⟨first, rest⟩ => by
    rw [sortedItems, sorted_of_isOrdered first, sortedItems_of_ordered rest]

theorem sortedMembers_of_ordered : ∀ {members : List (String × Json)}, MembersOrdered members →
    sortedMembers members = members
  | [], _ => rfl
  | _ :: _, ⟨first, rest⟩ => by
    rw [sortedMembers, sorted_of_isOrdered first, sortedMembers_of_ordered rest]

end

theorem membersOrdered_iff {members : List (String × Json)} :
    MembersOrdered members ↔ ∀ member ∈ members, member.2.IsOrdered := by
  induction members with
  | nil => simp [MembersOrdered]
  | cons member members ih => rw [MembersOrdered, ih, List.forall_mem_cons]

mutual

/-- What is read is in order. -/
theorem isOrdered_sorted : ∀ value : Json, value.sorted.IsOrdered
  | .arr items => itemsOrdered_sorted items
  | .obj members => by
    refine ⟨sortMembers_ascending _, membersOrdered_iff.mpr fun member found => ?_⟩
    exact membersOrdered_iff.mp (membersOrdered_sorted members) member (mem_of_mem_sortMembers found)
  | .null => trivial
  | .bool _ => trivial
  | .int _ => trivial
  | .real _ => trivial
  | .str _ => trivial

theorem itemsOrdered_sorted : ∀ items : List Json, ItemsOrdered (sortedItems items)
  | [] => trivial
  | item :: items => ⟨isOrdered_sorted item, itemsOrdered_sorted items⟩

theorem membersOrdered_sorted : ∀ members : List (String × Json), MembersOrdered (sortedMembers members)
  | [] => trivial
  | (_, value) :: members => ⟨isOrdered_sorted value, membersOrdered_sorted members⟩

end

/-- The members of an object, in order, from the tokens after its opening. -/
def restMembers? : List Token → Option Members
  | [.closeObject] => some []
  | tokens =>
    match members? (2 * tokens.length + 1) (deepest - 1) tokens with
    | some (members, []) => some members
    | _ => none

/-- The members of a text that holds one object and nothing else, in the order of the text. -/
def writtenMembers? : List Char → Option Members
  | '\x7b' :: rest => (tokens? rest).bind restMembers?
  | _ => none

theorem scan?_done (done : List Token) (fuel : Nat) (text : List Char) :
    Token.scan? done fuel text = (Token.scan? [] fuel text).map (done.reverse ++ ·) := by
  induction fuel generalizing done text with
  | zero =>
    cases text with
    | nil => simp [Token.scan?]
    | cons c text => rfl
  | succ fuel ih =>
    cases text with
    | nil => simp [Token.scan?]
    | cons c text =>
      rw [Token.scan?, Token.scan?]
      split
      · exact ih done text
      · cases Token.next? (c :: text) with
        | none => rfl
        | some found =>
          obtain ⟨token, rest⟩ := found
          simp only
          rw [ih (token :: done), ih [token], Option.map_map]
          congr 1
          funext tokens
          simp

theorem tokens?_openObject (rest : List Char) :
    tokens? ('\x7b' :: rest) = (tokens? rest).map (.openObject :: ·) :=
  scan?_done [.openObject] rest.length rest

/-- An object is read as the members of its text, put in order. -/
theorem parse?_openObject (rest : List Char) :
    parse? ('\x7b' :: rest) =
      (writtenMembers? ('\x7b' :: rest)).map fun members => .obj (sortMembers members) := by
  rw [parse?, tokens?_openObject, writtenMembers?]
  cases tokens? rest with
  | none => rfl
  | some tokens =>
    cases tokens with
    | nil => rfl
    | cons first tokens =>
      rw [Option.map_some, Option.bind_some]
      by_cases closed : first = .closeObject
      · subst closed
        cases tokens <;> rfl
      · have whole : value? (2 * (.openObject :: first :: tokens).length) deepest
            (.openObject :: first :: tokens) =
            (members? (2 * (first :: tokens).length + 1) (deepest - 1) (first :: tokens)).bind
              fun found => some (.obj (sortMembers found.1), found.2) := by
          rw [List.length_cons, Nat.mul_succ, deepest, value?]
          · rfl
          · intro rest shut
            exact closed (List.cons.inj shut).1
        simp only [whole]
        rw [restMembers?]
        · cases members? (2 * (first :: tokens).length + 1) (deepest - 1) (first :: tokens) with
          | none => rfl
          | some found =>
            obtain ⟨members, rest⟩ := found
            cases rest <;> rfl
        · intro shut
          exact closed (List.cons.inj shut).1

end PadBench.Json
