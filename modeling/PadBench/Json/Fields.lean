import PadBench.Json.Basic

/-!
Typed values out of JSON.

A number with a fraction or an exponent is no integer, and an integer has to fit its type. A missing
member and one that is `null` are not the same: only an optional field takes either.
-/
namespace PadBench.Json

def intBetween? (least greatest : Int) : Json → Option Int
  | .int value => if least ≤ value ∧ value ≤ greatest then some value else none
  | _ => none

def int32? (value : Json) : Option Int32 :=
  (intBetween? (-2147483648) 2147483647 value).map Int32.ofInt

def int64? (value : Json) : Option Int64 :=
  (intBetween? (-9223372036854775808) 9223372036854775807 value).map Int64.ofInt

def uint8? (value : Json) : Option UInt8 :=
  (intBetween? 0 255 value).map fun number => UInt8.ofNat number.toNat

def uint32? (value : Json) : Option UInt32 :=
  (intBetween? 0 4294967295 value).map fun number => UInt32.ofNat number.toNat

def string? : Json → Option String
  | .str text => some text
  | _ => none

def listOf? {α : Type} (item? : Json → Option α) : Json → Option (List α)
  | .arr items => items.mapM item?
  | _ => none

/-- The members of an object. -/
abbrev Members := List (String × Json)

namespace Members

def required? {α : Type} (members : Members) (key : String) (read? : Json → Option α) : Option α :=
  match member? key members with
  | none => none
  | some value => read? value

def defaulted? {α : Type} (members : Members) (key : String) (default : α) (read? : Json → Option α) :
    Option α :=
  match member? key members with
  | none => some default
  | some value => read? value

def optional? {α : Type} (members : Members) (key : String) (read? : Json → Option α) :
    Option (Option α) :=
  match member? key members with
  | none | some .null => some none
  | some value => (read? value).map some

/-- A member, unless its value is absent. -/
def ofOption {α : Type} (key : String) (write : α → Json) : Option α → Members
  | none => []
  | some value => [(key, write value)]

end Members

end PadBench.Json
