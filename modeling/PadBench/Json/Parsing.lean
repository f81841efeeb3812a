import PadBench.Json.Token

/-!
Reading a JSON text.

The members of an object come out in ascending order of their keys, and of several with one key the
last counts. Values nested too deep are refused.
-/
namespace PadBench.Json

/-- How many arrays and objects may lie within each other. -/
def deepest : Nat := 127

mutual

/-- The value at the front of the tokens, and the tokens after it. Each step takes at least one token,
so `fuel` need not exceed their number. -/
def value? : (fuel depth : Nat) → List Token → Option (Json × List Token)
  | 0, _, _ => none
  | _ + 1, _, .scalar value :: rest => some (value, rest)
  | _ + 1, _ + 1, .openArray :: .closeArray :: rest => some (.arr [], rest)
  | fuel + 1, depth + 1, .openArray :: rest => do
    let (items, rest) ← items? fuel depth rest
    some (.arr items, rest)
  | _ + 1, _ + 1, .openObject :: .closeObject :: rest => some (.obj [], rest)
  | fuel + 1, depth + 1, .openObject :: rest => do
    let (members, rest) ← members? fuel depth rest
    some (.obj (sortMembers members), rest)
  | _ + 1, _, _ => none

/-- The items up to the end of an array. -/
def items? : (fuel depth : Nat) → List Token → Option (List Json × List Token)
  | 0, _, _ => none
  | fuel + 1, depth, tokens => do
    let (item, rest) ← value? fuel depth tokens
    match rest with
    | .closeArray :: rest => some ([item], rest)
    | .comma :: rest =>
      let (items, rest) ← items? fuel depth rest
      some (item :: items, rest)
    | _ => none

/-- The members up to the end of an object, in the order of the text. -/
def members? : (fuel depth : Nat) → List Token → Option (List (String × Json) × List Token)
  | fuel + 1, depth, .scalar (.str key) :: .colon :: tokens => do
    let (value, rest) ← value? fuel depth tokens
    match rest with
    | .closeObject :: rest => some ([(key, value)], rest)
    | .comma :: rest =>
      let (members, rest) ← members? fuel depth rest
      some ((key, value) :: members, rest)
    | _ => none
  | _, _, _ => none

end

/-- The value of a text that holds one value and nothing else. -/
def parse? (text : List Char) : Option Json :=
  match tokens? text with
  | none => none
  | some tokens =>
    -- A value and the list it stands in both spend fuel on one token.
    match value? (2 * tokens.length) deepest tokens with
    | some (value, []) => some value
    | _ => none

end PadBench.Json
