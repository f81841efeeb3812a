import PadBench.Arith.BinaryFloat

/-!
JSON values.
-/
namespace PadBench

/-- A whole number within 64 bits is `int`, any other number `real`, a double. The members of an object
keep the order they are given in. -/
inductive Json where
  | null
  | bool (value : Bool)
  | int (value : Int)
  | real (value : BinaryFloat)
  | str (text : String)
  | arr (items : List Json)
  | obj (members : List (String × Json))

namespace Json

/-- The members with one set: in place if the key is there, else before the first greater key. Members
in ascending order of their keys stay so. -/
def insertMember (key : String) (value : Json) : List (String × Json) → List (String × Json)
  | [] => [(key, value)]
  | (other, old) :: rest =>
    if key = other then (key, value) :: rest
    else if key < other then (key, value) :: (other, old) :: rest
    else (other, old) :: insertMember key value rest

/-- The members in ascending order of their keys; of several with one key the last stays. -/
def sortMembers (members : List (String × Json)) : List (String × Json) :=
  members.foldl (fun sorted (key, value) => insertMember key value sorted) []

/-- The value of the first member with the key. -/
def member? (key : String) : List (String × Json) → Option Json
  | [] => none
  | (other, value) :: rest => if other = key then some value else member? key rest

end Json

end PadBench
