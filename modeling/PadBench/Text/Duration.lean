/-!
Lengths of time as text, in the largest unit that leaves a whole part.
-/
namespace PadBench.Text

/-- The digits of a fraction, without the zeros at their end. -/
def fractionDigits (width value : Nat) : List Char :=
  let digits := Nat.toDigits 10 value
  let padded := List.replicate (width - digits.length) '0' ++ digits
  (padded.reverse.dropWhile (· == '0')).reverse

/-- A number of milliseconds: `0ns`, `20ms`, `1s`, `1.5s`. -/
def milliseconds (count : Nat) : String :=
  if count = 0 then "0ns"
  else if count < 1000 then s!"{count}ms"
  else
    let fraction := fractionDigits 3 (count % 1000)
    let point := if fraction.isEmpty then "" else "."
    toString (count / 1000) ++ point ++ String.ofList fraction ++ "s"

end PadBench.Text
