import PadBench.Json.Parsing
import PadBench.Proofs.Json.Tokens

/-!
What is printed in compact form is read back (`parse?_chars`): the same value, with the members of each
object in the order of their keys, if its numbers are whole and it is nested no deeper than is read.
-/
namespace PadBench.Json

mutual

/-- The value with the members of each object as they are kept after reading. -/
def sorted : Json → Json
  | .arr items => .arr (sortedItems items)
  | .obj members => .obj (sortMembers (sortedMembers members))
  | .null => .null
  | .bool value => .bool value
  | .int value => .int value
  | .real value => .real value
  | .str text => .str text

def sortedItems : List Json → List Json
  | [] => []
  | item :: items => item.sorted :: sortedItems items

def sortedMembers : List (String × Json) → List (String × Json)
  | [] => []
  | (key, value) :: members => (key, value.sorted) :: sortedMembers members

end

mutual

/-- How many arrays and objects lie within each other. -/
def depth : Json → Nat
  | .arr items => itemsDepth items + 1
  | .obj members => membersDepth members + 1
  | _ => 0

def itemsDepth : List Json → Nat
  | [] => 0
  | item :: items => max item.depth (itemsDepth items)

def membersDepth : List (String × Json) → Nat
  | [] => 0
  | (_, value) :: members => max value.depth (membersDepth members)

end

/-- A value starts with a token of its own, not with the end of what it stands in. -/
theorem tokens_first (value : Json) :
    ∃ first rest, value.tokens = first :: rest ∧ first ≠ .closeArray := by
  cases value <;> exact ⟨_, _, rfl, nofun⟩

theorem itemTokens_first (item : Json) (items : List Json) :
    ∃ first rest, itemTokens (item :: items) = first :: rest ∧ first ≠ .closeArray := by
  obtain ⟨first, rest, shape, open_⟩ := tokens_first item
  cases items with
  | nil => exact ⟨first, rest, shape, open_⟩
  | cons next items =>
    refine ⟨first, rest ++ .comma :: itemTokens (next :: items), ?_, open_⟩
    rw [itemTokens, shape, List.cons_append]

theorem memberTokens_first (key : String) (value : Json) (members : List (String × Json)) :
    ∃ rest, memberTokens ((key, value) :: members) = .scalar (.str key) :: rest := by
  cases members <;> exact ⟨_, rfl⟩

theorem length_tokens_pos (value : Json) : 0 < value.tokens.length := by
  obtain ⟨first, rest, shape, _⟩ := tokens_first value
  rw [shape]
  exact Nat.zero_lt_succ _

section Steps

variable {fuel depth : Nat} {text rest more : List Token} {item : Json} {items : List Json} {key : String}
  {members : List (String × Json)}

/-- An array that has items is read as its items. -/
theorem value?_openArray {first : Token} (open_ : first ≠ .closeArray)
    (inner : items? fuel depth (first :: text) = some (items, rest)) :
    value? (fuel + 1) (depth + 1) (.openArray :: first :: text) = some (.arr items, rest) := by
  rw [value?]
  · rw [inner]
    rfl
  · intro tokens closed
    exact open_ (List.cons.inj closed).1

/-- An object that has members is read as its members. -/
theorem value?_openObject
    (inner : members? fuel depth (.scalar (.str key) :: text) = some (members, rest)) :
    value? (fuel + 1) (depth + 1) (.openObject :: .scalar (.str key) :: text) =
      some (.obj (sortMembers members), rest) := by
  rw [value?]
  · rw [inner]
    rfl
  · exact nofun

theorem items?_last (first : value? fuel depth text = some (item, .closeArray :: rest)) :
    items? (fuel + 1) depth text = some ([item], rest) := by
  rw [items?, first]
  rfl

theorem items?_comma (first : value? fuel depth text = some (item, .comma :: more))
    (others : items? fuel depth more = some (items, rest)) :
    items? (fuel + 1) depth text = some (item :: items, rest) := by
  rw [items?, first]
  simp only [Option.bind_eq_bind, Option.bind_some, others]

theorem members?_last (first : value? fuel depth text = some (item, .closeObject :: rest)) :
    members? (fuel + 1) depth (.scalar (.str key) :: .colon :: text) = some ([(key, item)], rest) := by
  rw [members?, first]
  rfl

theorem members?_comma (first : value? fuel depth text = some (item, .comma :: more))
    (others : members? fuel depth more = some (members, rest)) :
    members? (fuel + 1) depth (.scalar (.str key) :: .colon :: text) =
      some ((key, item) :: members, rest) := by
  rw [members?, first]
  simp only [Option.bind_eq_bind, Option.bind_some, others]

end Steps

mutual

/-- A value is read back from its tokens, whatever follows them. -/
theorem value?_tokens : ∀ (value : Json) (fuel limit : Nat) (rest : List Token),
    2 * value.tokens.length ≤ fuel + 1 → value.depth ≤ limit →
    value? fuel limit (value.tokens ++ rest) = some (value.sorted, rest)
  | .null, fuel + 1, _, rest, _, _ => by rw [tokens, List.singleton_append, value?, sorted]
  | .bool _, fuel + 1, _, rest, _, _ => by rw [tokens, List.singleton_append, value?, sorted]
  | .int _, fuel + 1, _, rest, _, _ => by rw [tokens, List.singleton_append, value?, sorted]
  | .real _, fuel + 1, _, rest, _, _ => by rw [tokens, List.singleton_append, value?, sorted]
  | .str _, fuel + 1, _, rest, _, _ => by rw [tokens, List.singleton_append, value?, sorted]
  | .arr [], fuel + 1, limit + 1, rest, _, _ => rfl
  | .arr (item :: items), fuel + 1, limit + 1, rest, enough, shallow => by
    have length : (tokens (.arr (item :: items))).length =
        (itemTokens (item :: items)).length + 1 + 1 := by
      rw [tokens, List.length_append, List.length_cons, List.length_singleton]
    obtain ⟨first, others, shape, open_⟩ := itemTokens_first item items
    have inner := items?_itemTokens item items fuel limit rest (by omega)
      (Nat.le_of_succ_le_succ shallow)
    rw [shape, List.cons_append] at inner
    have array := value?_openArray open_ inner
    rw [tokens, shape, sorted, List.append_assoc]
    exact array
  | .obj [], fuel + 1, limit + 1, rest, _, _ => rfl
  | .obj ((key, value) :: members), fuel + 1, limit + 1, rest, enough, shallow => by
    have length : (tokens (.obj ((key, value) :: members))).length =
        (memberTokens ((key, value) :: members)).length + 1 + 1 := by
      rw [tokens, List.length_append, List.length_cons, List.length_singleton]
    obtain ⟨others, shape⟩ := memberTokens_first key value members
    have inner := members?_memberTokens key value members fuel limit rest
      (by omega) (Nat.le_of_succ_le_succ shallow)
    rw [shape, List.cons_append] at inner
    have object := value?_openObject inner
    rw [tokens, shape, sorted, List.append_assoc]
    exact object
  | value, 0, _, _, enough, _ => by
    have positive := length_tokens_pos value
    omega

theorem items?_itemTokens : ∀ (item : Json) (items : List Json) (fuel limit : Nat)
    (rest : List Token),
    2 * (itemTokens (item :: items)).length ≤ fuel → itemsDepth (item :: items) ≤ limit →
    items? fuel limit (itemTokens (item :: items) ++ .closeArray :: rest) =
      some (sortedItems (item :: items), rest)
  | item, [], fuel + 1, limit, rest, enough, shallow => by
    rw [itemsDepth, Nat.max_le] at shallow
    exact items?_last (value?_tokens item fuel limit (.closeArray :: rest) enough shallow.1)
  | item, next :: items, fuel + 1, limit, rest, enough, shallow => by
    rw [itemsDepth, Nat.max_le] at shallow
    rw [itemTokens, List.length_append, List.length_cons] at enough
    have first := value?_tokens item fuel limit
      (.comma :: itemTokens (next :: items) ++ .closeArray :: rest) (by omega) shallow.1
    have others := items?_itemTokens next items fuel limit rest (by omega) shallow.2
    rw [itemTokens, List.append_assoc, sortedItems]
    exact items?_comma first others
  | item, items, 0, _, _, enough, _ => by
    obtain ⟨first, others, shape, _⟩ := itemTokens_first item items
    rw [shape, List.length_cons] at enough
    omega

theorem members?_memberTokens : ∀ (key : String) (value : Json) (members : List (String × Json))
    (fuel limit : Nat) (rest : List Token),
    2 * (memberTokens ((key, value) :: members)).length ≤ fuel →
    membersDepth ((key, value) :: members) ≤ limit →
    members? fuel limit (memberTokens ((key, value) :: members) ++ .closeObject :: rest) =
      some (sortedMembers ((key, value) :: members), rest)
  | key, value, [], fuel + 1, limit, rest, enough, shallow => by
    rw [membersDepth, Nat.max_le] at shallow
    rw [memberTokens, List.length_cons, List.length_cons] at enough
    have first := value?_tokens value fuel limit (.closeObject :: rest) (by omega)
      shallow.1
    exact members?_last first
  | key, value, (next, other) :: members, fuel + 1, limit, rest, enough, shallow => by
    rw [membersDepth, Nat.max_le] at shallow
    rw [memberTokens, List.length_append, List.length_cons, List.length_cons, List.length_cons] at enough
    have first := value?_tokens value fuel limit
      (.comma :: memberTokens ((next, other) :: members) ++ .closeObject :: rest) (by omega) shallow.1
    have others := members?_memberTokens next other members fuel limit rest
      (by omega) shallow.2
    rw [memberTokens, List.append_assoc, sortedMembers]
    exact members?_comma first others
  | key, value, members, 0, _, _, enough, _ => by
    obtain ⟨others, shape⟩ := memberTokens_first key value members
    rw [shape, List.length_cons] at enough
    omega

end

/-- The compact text of a value is read as the value. -/
theorem parse?_chars {value : Json} (whole : value.IsWhole) (shallow : value.depth ≤ deepest) :
    parse? value.chars = some value.sorted := by
  have back := value?_tokens value (2 * value.tokens.length) deepest [] (by omega) shallow
  rw [List.append_nil] at back
  simp only [parse?, tokens?_chars whole, back]

end PadBench.Json
