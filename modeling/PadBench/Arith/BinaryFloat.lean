import PadBench.Arith.Signed32

/-!
Binary floating-point values, and correct rounding into a format.

A finite value is `±mantissa · 2^exponent`. Every operation takes the exact quotient of two natural
numbers and rounds it once: to the nearest value of the format, a tie going to the even mantissa.
-/
namespace PadBench

/-- What a binary format can hold: the bits of a mantissa, the exponent of the least positive value,
and the binade above which a value is infinite. -/
structure FloatFormat where
  precision : Nat
  leastExponent : Int
  greatestBinade : Int

namespace FloatFormat

def single : FloatFormat := ⟨24, -149, 127⟩
def double : FloatFormat := ⟨53, -1074, 1023⟩

end FloatFormat

inductive BinaryFloat where
  | nan
  | infinite (negative : Bool)
  | finite (negative : Bool) (mantissa : Nat) (exponent : Int)
  deriving DecidableEq, Repr

namespace BinaryFloat

/-- The quotient `num / den` counted in units of `2^exponent`, again as a quotient. -/
def inUnits (num den : Nat) : Int → Nat × Nat
  | .ofNat exponent => (num, den <<< exponent)
  | .negSucc exponent => (num <<< (exponent + 1), den)

/-- The `k` with `2^k ≤ num / den < 2^(k+1)`, both numbers being positive. The two lengths in bits
fix it up to one. -/
def binade (num den : Nat) : Int :=
  let guess : Int := (num.log2 : Int) - (den.log2 : Int)
  let (scaledNum, scaledDen) := inUnits num den guess
  if scaledNum < scaledDen then guess - 1 else guess

/-- The whole number nearest to `num / den`, and of two equally near the even one. -/
def nearestEven (num den : Nat) : Nat :=
  let quotient := num / den
  let twice := 2 * (num % den)
  if twice < den then quotient
  else if den < twice then quotient + 1
  else quotient + quotient % 2

/-- The value of the format nearest to `±num / den`. -/
def round (format : FloatFormat) (negative : Bool) (num den : Nat) : BinaryFloat :=
  if num = 0 then .finite negative 0 format.leastExponent
  else
    let exponent := max format.leastExponent (binade num den - ((format.precision : Int) - 1))
    let (scaledNum, scaledDen) := inUnits num den exponent
    let mantissa := nearestEven scaledNum scaledDen
    if format.greatestBinade < (mantissa.log2 : Int) + exponent then .infinite negative
    else .finite negative mantissa exponent

def ofInt (format : FloatFormat) (value : Int) : BinaryFloat :=
  round format (decide (value < 0)) value.natAbs 1

/-- Powers of ten past this size are out of reach of both formats. -/
def decimalReach : Int := 400

/-- The value of the format nearest to `±digits · 10^exponent`. -/
def ofDecimal (format : FloatFormat) (negative : Bool) (digits : Nat) (exponent : Int) :
    BinaryFloat :=
  let size := ((Nat.toDigits 10 digits).length : Int) + exponent
  if digits = 0 ∨ size < -decimalReach then .finite negative 0 format.leastExponent
  else if decimalReach < size then .infinite negative
  else match exponent with
    | .ofNat power => round format negative (digits * Nat.pow 10 power) 1
    | .negSucc power => round format negative digits (Nat.pow 10 (power + 1))

/-- The same value, or the nearest to it, in another format. -/
def convert (format : FloatFormat) : BinaryFloat → BinaryFloat
  | .finite negative mantissa exponent =>
    let (num, den) := inUnits mantissa 1 (-exponent)
    round format negative num den
  | other => other

def isFinite : BinaryFloat → Bool
  | .finite .. => true
  | _ => false

/-- Not a number when an operand is not, or when zero meets an infinity. -/
def mul (format : FloatFormat) : BinaryFloat → BinaryFloat → BinaryFloat
  | .finite n₁ m₁ e₁, .finite n₂ m₂ e₂ =>
    let (num, den) := inUnits (m₁ * m₂) 1 (-(e₁ + e₂))
    round format (n₁ != n₂) num den
  | .nan, _ | _, .nan => .nan
  | .infinite n₁, .infinite n₂ => .infinite (n₁ != n₂)
  | .infinite n₁, .finite n₂ m _ | .finite n₂ m _, .infinite n₁ =>
    if m = 0 then .nan else .infinite (n₁ != n₂)

/-- Not a number for zero over zero and infinity over infinity; infinite for all else over zero. -/
def div (format : FloatFormat) : BinaryFloat → BinaryFloat → BinaryFloat
  | .finite n₁ m₁ e₁, .finite n₂ m₂ e₂ =>
    if m₂ = 0 then if m₁ = 0 then .nan else .infinite (n₁ != n₂)
    else
      let (num, den) := inUnits m₁ m₂ (e₂ - e₁)
      round format (n₁ != n₂) num den
  | .nan, _ | _, .nan => .nan
  | .infinite _, .infinite _ => .nan
  | .infinite n₁, .finite n₂ _ _ => .infinite (n₁ != n₂)
  | .finite n₁ _ _, .infinite n₂ => .finite (n₁ != n₂) 0 format.leastExponent

/-- A finite value in units of `2^unit`, for a `unit` not above its exponent. -/
def signedUnits (negative : Bool) (mantissa : Nat) (exponent unit : Int) : Int :=
  let units : Int := (mantissa <<< (exponent - unit).toNat : Nat)
  if negative then -units else units

/-- The order of the values. Nothing is below or above not-a-number, and the two zeros are equal. -/
def lt : BinaryFloat → BinaryFloat → Bool
  | .finite n₁ m₁ e₁, .finite n₂ m₂ e₂ =>
    let unit := min e₁ e₂
    decide (signedUnits n₁ m₁ e₁ unit < signedUnits n₂ m₂ e₂ unit)
  | .nan, _ | _, .nan => false
  | .infinite n₁, .infinite n₂ => n₁ && !n₂
  | .infinite n, .finite .. => n
  | .finite .., .infinite n => !n

/-- Clamping to a closed interval; not-a-number is left alone. -/
def clamp (value low high : BinaryFloat) : BinaryFloat :=
  if value.lt low then low else if high.lt value then high else value

/-- Toward zero, into the signed 32-bit range: what lies outside saturates, and not-a-number
becomes 0. -/
def truncate : BinaryFloat → Int
  | .nan => 0
  | .infinite negative => if negative then Signed32.least else Signed32.greatest
  | .finite negative mantissa exponent =>
    let whole : Nat := match exponent with
      | .ofNat e => mantissa <<< e
      | .negSucc e => mantissa >>> (e + 1)
    Signed32.saturate (if negative then -(whole : Int) else (whole : Int))

/-- The interchange encoding of a value of the single format: sign, biased exponent, fraction. `none`
stands for not-a-number, which has many encodings. -/
def singleBits : BinaryFloat → Option Nat
  | .nan => none
  | .infinite negative => some (sign negative + (255 <<< 23))
  | .finite negative mantissa exponent =>
    if mantissa = 0 then some (sign negative)
    else
      let binade := (mantissa.log2 : Int) + exponent
      if binade < -126 then some (sign negative + mantissa <<< (exponent + 149).toNat)
      else
        let aligned := (mantissa <<< 24) >>> (mantissa.log2 + 1)
        some (sign negative + (((binade + 126).toNat) <<< 23) + aligned)
where
  sign (negative : Bool) : Nat := if negative then 1 <<< 31 else 0

def isNan : BinaryFloat → Bool
  | .nan => true
  | _ => false

end BinaryFloat

end PadBench
