/-!
Hexadecimal numerals of a least width.
-/
namespace PadBench.Text

def padded (width : Nat) (digits : List Char) : String :=
  String.ofList (List.replicate (width - digits.length) '0' ++ digits)

/-- Lower-case digits, with leading zeros up to `width`. -/
def lowerHex (width value : Nat) : String := padded width (Nat.toDigits 16 value)

/-- Upper-case digits, with leading zeros up to `width`. -/
def upperHex (width value : Nat) : String := padded width ((Nat.toDigits 16 value).map Char.toUpper)

end PadBench.Text
