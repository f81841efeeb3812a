import PadBench.Arith.BinaryFloat

/-!
The shortest decimal of a double: the fewest digits that read back as the same value, and among
numerals of that length the nearest.
-/
namespace PadBench

/-- The number `digits · 10^exponent`. -/
structure Decimal where
  digits : Nat
  exponent : Int
  deriving DecidableEq, Repr

namespace Decimal

/-- The quotient `num / den` in units of `10^exponent`, as a quotient. -/
def inUnits (num den : Nat) : Int → Nat × Nat
  | .ofNat exponent => (num, den * Nat.pow 10 exponent)
  | .negSucc exponent => (num * Nat.pow 10 (exponent + 1), den)

def digitCount (value : Nat) : Nat := (Nat.toDigits 10 value).length

/-- The `k` with `10^k ≤ num / den < 10^(k+1)`, both numbers being positive. -/
def decade (num den : Nat) : Int :=
  if den ≤ num then (digitCount (num / den) : Int) - 1
  else
    let guess := digitCount (den / num) - 1
    if den ≤ num * Nat.pow 10 guess then -(guess : Int) else -(guess : Int) - 1

/-- The candidate of a grid that reads back as `value`, if there is one: the grid's nearest point below
or the one above, the nearer of the two if both do. -/
def onGrid? (value : BinaryFloat) (num den : Nat) (exponent : Int) : Option Decimal :=
  let (scaledNum, scaledDen) := inUnits num den exponent
  let below := scaledNum / scaledDen
  let readsBack (digits : Nat) := BinaryFloat.ofDecimal .double false digits exponent == value
  let nearest := BinaryFloat.nearestEven scaledNum scaledDen
  if readsBack nearest then some ⟨nearest, exponent⟩
  else if readsBack below then some ⟨below, exponent⟩
  else if readsBack (below + 1) then some ⟨below + 1, exponent⟩
  else none

/-- Enough digits to tell any two doubles apart. -/
def mostDigits : Nat := 17

/-- The same number without up to `count` zeros at its end. A value just below a power of ten reads back
from that power, which its own grid writes with a zero too many. -/
def stripZeros (value : Decimal) : (count : Nat) → Decimal
  | 0 => value
  | count + 1 =>
    if value.digits % 10 = 0 then stripZeros ⟨value.digits / 10, value.exponent + 1⟩ count else value

/-- The shortest decimal of the positive double `mantissa · 2^exponent`. -/
def shortest (mantissa : Nat) (exponent : Int) : Decimal :=
  let (num, den) := BinaryFloat.inUnits mantissa 1 (-exponent)
  let value := BinaryFloat.round .double false num den
  let top := decade num den
  let candidates := (List.range mostDigits).filterMap fun (count : Nat) =>
    onGrid? value num den (top - (count : Int))
  (candidates.headD ⟨num / den, 0⟩).stripZeros mostDigits

end Decimal

end PadBench
