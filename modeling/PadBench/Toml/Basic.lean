import PadBench.Arith.BinaryFloat

/-!
TOML values, and how a document puts them together.

A document names its values by keys with dots, and by headers. A table may be added to from several
lines, but only in the way it was begun; what a table came from decides which way that is.
-/
namespace PadBench

/-- Where a table or an array came from. -/
inductive Toml.Origin where
  /-- It stands as a value, and is complete. -/
  | literal
  /-- A header of its own opened it. -/
  | header
  /-- It is named on the way to another header. -/
  | implied
  /-- It is named on the way to the last part of a dotted key. -/
  | dotted
  deriving DecidableEq, Repr

inductive Toml where
  | str (text : String)
  | int (value : Int)
  | real (value : BinaryFloat)
  | bool (value : Bool)
  /-- A date, a time, or both, as it is written. -/
  | moment (text : String)
  | arr (origin : Toml.Origin) (items : List Toml)
  | table (origin : Toml.Origin) (members : List (String × Toml))

namespace Toml

abbrev Members := List (String × Toml)

/-- The value of a key. -/
def member? (key : String) : Members → Option Toml
  | [] => none
  | (other, value) :: rest => if other = key then some value else member? key rest

/-- The members with the value of a key changed, or added at the end. `change` sees what is there. -/
def alter? (key : String) (change : Option Toml → Option Toml) : Members → Option Members
  | [] => (change none).map fun value => [(key, value)]
  | (other, old) :: rest =>
    if other = key then (change (some old)).map fun value => (key, value) :: rest
    else (alter? key change rest).map fun rest => (other, old) :: rest

/-- The items with the table at their end changed. -/
def changeLast? (change : Members → Option Members) (items : List Toml) : Option (List Toml) :=
  match items.reverse with
  | .table origin members :: earlier =>
    (change members).map fun members => (.table origin members :: earlier).reverse
  | _ => none

/-- One step along a header: into a table, into the last table of an array that headers made, or into
a table that this header implies. -/
def descend? (change : Members → Option Members) : Option Toml → Option Toml
  | none => (change []).map (.table .implied)
  | some (.table .literal _) => none
  | some (.table origin members) => (change members).map (.table origin)
  | some (.arr .header items) => (changeLast? change items).map (.arr .header)
  | some _ => none

/-- The members with those at the end of a path changed. -/
def within? (change : Members → Option Members) : List String → Members → Option Members
  | [], members => change members
  | key :: path, members => alter? key (descend? (within? change path)) members

/-- What a header makes of its last key: a new table, or an implied one opened. -/
def opened? : Option Toml → Option Toml
  | none => some (.table .header [])
  | some (.table .implied members) => some (.table .header members)
  | some _ => none

/-- What a header in double brackets makes of its last key: one more table in the array. -/
def extended? : Option Toml → Option Toml
  | none => some (.arr .header [.table .header []])
  | some (.arr .header items) => some (.arr .header (items ++ [.table .header []]))
  | some _ => none

/-- The document after a header. -/
def openHeader? (isArray : Bool) (path : List String) (members : Members) : Option Members :=
  match path.getLast? with
  | none => none
  | some key => within? (alter? key (if isArray then extended? else opened?)) path.dropLast members

/-- A value that only a free key can take. -/
def ifFree (value : Toml) : Option Toml → Option Toml
  | none => some value
  | some _ => none

/-- The members with the value of a dotted key added. A dotted key passes through tables that are implied
or made by dotted keys, but its last part is added only to the latter, or where no dot led. -/
def insert? (value : Toml) (mayAdd : Bool) : List String → Members → Option Members
  | [], _ => none
  | [key], members => if mayAdd then alter? key (ifFree value) members else none
  | key :: next :: path, members => alter? key (fun
    | none => (insert? value true (next :: path) []).map (.table .dotted)
    | some (.table .dotted inner) => (insert? value true (next :: path) inner).map (.table .dotted)
    | some (.table .implied inner) => (insert? value false (next :: path) inner).map (.table .implied)
    | some (.arr .header items) =>
      (changeLast? (insert? value false (next :: path)) items).map (.arr .header)
    | some _ => none) members

end Toml

end PadBench
