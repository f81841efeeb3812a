/-!
Where a link over the network is opened.
-/
namespace PadBench

/-- A host, by name or number, and the number of a service there. -/
structure Address where
  host : String
  service : UInt16
  deriving DecidableEq, Repr

namespace Address

/-- A host without the brackets that keep its colons apart from the last one. -/
def unbracketed (host : String) : String :=
  match host.toList with
  | '[' :: rest => if rest.getLast? = some ']' then String.ofList rest.dropLast else host
  | _ => host

/-- A service is written in digits, and no higher than 65535. -/
def service? (text : String) : Option UInt16 :=
  if text.isEmpty || !text.toList.all Char.isDigit then none
  else text.toNat?.bind fun number => if number < 65536 then some number.toUInt16 else none

/-- The last colon of an address stands between its host and its service. -/
def ofText? (text : String) : Option Address :=
  match (text.splitOn ":").reverse with
  | service :: part :: parts => do
    return ⟨unbracketed (String.intercalate ":" (part :: parts).reverse), ← service? service⟩
  | _ => none

end Address

end PadBench
