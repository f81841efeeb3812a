import PadBench.Toml.Basic
import PadBench.Toml.Quoted

/-!
The numerals of TOML.

Whole numbers are decimal, or hexadecimal, octal or binary without a sign, and fit a signed 64-bit word.
All others are doubles; a positive one past the doubles is refused. An underscore may stand between two
digits.
-/
namespace PadBench.Toml.Numeral

def leastInt : Int := -9223372036854775808
def greatestInt : Int := 9223372036854775807

/-- The digits that go on a run, underscores left out, and what follows them. -/
def moreDigits? (isDigit : Char → Bool) (done : List Char) :
    List Char → Option (List Char × List Char)
  | '_' :: next :: rest => if isDigit next then moreDigits? isDigit (next :: done) rest else none
  | c :: rest =>
    if c = '_' then none
    else if isDigit c then moreDigits? isDigit (c :: done) rest
    else some (done.reverse, c :: rest)
  | [] => some (done.reverse, [])

/-- A run of at least one digit. -/
def digits? (isDigit : Char → Bool) : List Char → Option (List Char × List Char)
  | first :: rest => if isDigit first then moreDigits? isDigit [first] rest else none
  | [] => none

/-- The digits before a point. Only zero starts with the digit 0, so that one stands alone. -/
def whole? : List Char → Option (List Char × List Char)
  | '0' :: rest => some (['0'], rest)
  | text => digits? Char.isDigit text

/-- A sign, if there is one; whether it is a minus. -/
def sign : List Char → Bool × List Char
  | '-' :: rest => (true, rest)
  | '+' :: rest => (false, rest)
  | rest => (false, rest)

/-- The digits after a point, if there is one. -/
def fraction? : List Char → Option (List Char × List Char)
  | '.' :: rest => digits? Char.isDigit rest
  | rest => some ([], rest)

/-- The number after the mark of an exponent, if there is one. -/
def exponent? : List Char → Option (Option Int × List Char)
  | mark :: rest =>
    if mark = 'e' ∨ mark = 'E' then do
      let (negative, rest) := sign rest
      let (digits, rest) ← digits? Char.isDigit rest
      let size : Int := Nat.ofDigitChars 10 digits 0
      some (some (if negative then -size else size), rest)
    else some (none, mark :: rest)
  | [] => some (none, [])

def int? (value : Int) : Option Toml :=
  if leastInt ≤ value ∧ value ≤ greatestInt then some (.int value) else none

def real? (value : BinaryFloat) : Option Toml :=
  match value with
  | .infinite false => none
  | value => some (.real value)

/-- A number in another base, by the letter of the base. -/
def based? (base : Char) (text : List Char) : Option (Toml × List Char) := do
  let (size, isDigit) ← match base with
    | 'x' => some (16, fun c => (hexDigit? c).isSome)
    | 'o' => some (8, fun (c : Char) => '0' ≤ c && c ≤ '7')
    | 'b' => some (2, fun (c : Char) => c == '0' || c == '1')
    | _ => none
  let (digits, rest) ← digits? isDigit text
  let value := digits.foldl (fun value c => value * size + (hexDigit? c).getD 0) 0
  some (← int? (value : Nat), rest)

/-- A number without a sign of its own that names no digits. -/
def special? (negative : Bool) : List Char → Option (Toml × List Char)
  | 'i' :: 'n' :: 'f' :: rest => some (.real (.infinite negative), rest)
  | 'n' :: 'a' :: 'n' :: rest => some (.real .nan, rest)
  | _ => none

/-- A number in digits, after its sign. -/
def decimal? (negative : Bool) (text : List Char) : Option (Toml × List Char) := do
  let (whole, rest) ← whole? text
  let (fraction, rest) ← fraction? rest
  let (exponent, rest) ← exponent? rest
  match fraction, exponent with
  | [], none =>
    let size : Int := Nat.ofDigitChars 10 whole 0
    some (← int? (if negative then -size else size), rest)
  | _, _ =>
    let digits := Nat.ofDigitChars 10 (whole ++ fraction) 0
    let value := BinaryFloat.ofDecimal .double negative digits (exponent.getD 0 - fraction.length)
    some (← real? value, rest)

/-- The number at the front of a text, and what follows it. -/
def scan? (text : List Char) : Option (Toml × List Char) :=
  match text with
  | '0' :: 'x' :: rest => based? 'x' rest
  | '0' :: 'o' :: rest => based? 'o' rest
  | '0' :: 'b' :: rest => based? 'b' rest
  | text =>
    let (negative, rest) := sign text
    (special? negative rest).or (decimal? negative rest)

end PadBench.Toml.Numeral
