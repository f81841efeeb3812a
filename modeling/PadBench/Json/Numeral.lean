import PadBench.Arith.Shortest
import PadBench.Json.Basic

/-!
The numerals of JSON.

A numeral without fraction and exponent that fits a signed or unsigned 64-bit word is a whole number.
Any other, and `-0`, is the double nearest to it; one past the doubles is refused.
-/
namespace PadBench.Json.Numeral

def leastInt : Int := -9223372036854775808
def greatestInt : Int := 18446744073709551615

def intChars (value : Int) : List Char :=
  if value < 0 then '-' :: Nat.toDigits 10 value.natAbs else Nat.toDigits 10 value.natAbs

/-- Up to here a number is written without an exponent: digits before the point, zeros after it. -/
def longestWhole : Int := 16
def mostLeadingZeros : Int := 5

/-- A positive number: positional within the bounds, else with one digit before the point and an
exponent. -/
def decimalChars (value : Decimal) : List Char :=
  let digits := Nat.toDigits 10 value.digits
  let point : Int := digits.length + value.exponent
  if 0 ≤ value.exponent ∧ point ≤ longestWhole then
    digits ++ List.replicate value.exponent.toNat '0' ++ ['.', '0']
  else if 0 < point ∧ point ≤ longestWhole then
    digits.take point.toNat ++ '.' :: digits.drop point.toNat
  else if -mostLeadingZeros < point ∧ point ≤ 0 then
    '0' :: '.' :: List.replicate (-point).toNat '0' ++ digits
  else
    let fraction := digits.drop 1
    digits.take 1 ++ (if fraction.isEmpty then [] else '.' :: fraction) ++ 'e' :: intChars (point - 1)

/-- A double. JSON has no numeral for what is not finite. -/
def realChars : BinaryFloat → List Char
  | .finite negative mantissa exponent =>
    (if negative then ['-'] else []) ++
      if mantissa = 0 then ['0', '.', '0'] else decimalChars (Decimal.shortest mantissa exponent)
  | _ => ['n', 'u', 'l', 'l']

/-- The digits at the front, and what follows them. -/
def splitDigits (text : List Char) : List Char × List Char :=
  (text.takeWhile Char.isDigit, text.dropWhile Char.isDigit)

/-- The digits of a fraction, if one follows. A point needs at least one. -/
def fraction? : List Char → Option (List Char × List Char)
  | '.' :: rest =>
    let (digits, rest) := splitDigits rest
    if digits.isEmpty then none else some (digits, rest)
  | rest => some ([], rest)

/-- The exponent after its mark. -/
def signedExponent? (text : List Char) : Option (Int × List Char) :=
  let (negative, text) := match text with
    | '-' :: rest => (true, rest)
    | '+' :: rest => (false, rest)
    | rest => (false, rest)
  let (digits, rest) := splitDigits text
  if digits.isEmpty then none
  else
    let size : Int := Nat.ofDigitChars 10 digits 0
    some (if negative then -size else size, rest)

/-- The exponent, if one follows. -/
def exponent? : List Char → Option (Option Int × List Char)
  | 'e' :: rest | 'E' :: rest => (signedExponent? rest).map fun (exponent, rest) => (some exponent, rest)
  | rest => some (none, rest)

/-- A whole number, if it is not zero with a sign and fits. -/
def int? (negative : Bool) (digits : List Char) : Option Int :=
  let size : Int := Nat.ofDigitChars 10 digits 0
  let value := if negative then -size else size
  if negative && size == 0 then none
  else if leastInt ≤ value ∧ value ≤ greatestInt then some value
  else none

def real? (negative : Bool) (whole fraction : List Char) (exponent : Int) : Option Json :=
  let value := BinaryFloat.ofDecimal .double negative (Nat.ofDigitChars 10 (whole ++ fraction) 0)
    (exponent - fraction.length)
  if value.isFinite then some (.real value) else none

/-- Only the numeral 0 starts with the digit 0. -/
def isWhole : List Char → Bool
  | [] => false
  | ['0'] => true
  | first :: _ => first != '0'

/-- The number at the front of a text, and what follows it. -/
def scan? (text : List Char) : Option (Json × List Char) := do
  let (negative, text) := match text with
    | '-' :: rest => (true, rest)
    | rest => (false, rest)
  let (whole, rest) := splitDigits text
  if !isWhole whole then none
  else
    let (fraction, rest) ← fraction? rest
    let (exponent, rest) ← exponent? rest
    match fraction, exponent, int? negative whole with
    | [], none, some value => some (.int value, rest)
    | _, _, _ => (real? negative whole fraction (exponent.getD 0)).map (·, rest)

end PadBench.Json.Numeral
