/-!
The dates and times of TOML, checked against the calendar but kept as they are written.
-/
namespace PadBench.Toml.Moment

/-- A number of exactly two digits. -/
def two? : List Char → Option (Nat × List Char)
  | a :: b :: rest =>
    if a.isDigit && b.isDigit then some (Nat.ofDigitChars 10 [a, b] 0, rest) else none
  | _ => none

/-- A number of two digits within bounds. -/
def bounded? (least greatest : Nat) (text : List Char) : Option (Nat × List Char) := do
  let (value, rest) ← two? text
  if least ≤ value ∧ value ≤ greatest then some (value, rest) else none

def mark? (expected : Char) : List Char → Option (List Char)
  | c :: rest => if c = expected then some rest else none
  | [] => none

def isLeap (year : Nat) : Bool := year % 4 == 0 && (year % 100 != 0 || year % 400 == 0)

def daysIn (year month : Nat) : Nat :=
  if month = 2 then if isLeap year then 29 else 28
  else if [4, 6, 9, 11].contains month then 30
  else 31

/-- What follows a date at the front. -/
def date? (text : List Char) : Option (List Char) := do
  let (century, rest) ← two? text
  let (year, rest) ← two? rest
  let rest ← mark? '-' rest
  let (month, rest) ← bounded? 1 12 rest
  let rest ← mark? '-' rest
  let (_, rest) ← bounded? 1 (daysIn (century * 100 + year) month) rest
  some rest

/-- What follows a fraction of a second, if there is one. -/
def fraction : List Char → List Char
  | '.' :: digit :: rest => if digit.isDigit then rest.dropWhile Char.isDigit else '.' :: digit :: rest
  | rest => rest

/-- What follows a time of day at the front. Its second may be a leap second. -/
def time? (text : List Char) : Option (List Char) := do
  let (_, rest) ← bounded? 0 23 text
  let rest ← mark? ':' rest
  let (_, rest) ← bounded? 0 59 rest
  let rest ← mark? ':' rest
  let (_, rest) ← bounded? 0 60 rest
  some (fraction rest)

/-- What follows the offset from universal time, if there is one. -/
def offset (text : List Char) : List Char :=
  match text with
  | [] => []
  | mark :: rest =>
    if mark = 'Z' ∨ mark = 'z' then rest
    else if mark = '+' ∨ mark = '-' then
      (do
        let (_, rest) ← bounded? 0 23 rest
        let rest ← mark? ':' rest
        let (_, rest) ← bounded? 0 59 rest
        some rest).getD text
    else text

def isTimeMark (c : Char) : Bool := c == 'T' || c == 't' || c == ' '

/-- What follows the time that goes with a date, if there is one. -/
def timeAfterDate (text : List Char) : List Char :=
  match text with
  | [] => []
  | mark :: rest => if isTimeMark mark then ((time? rest).map offset).getD text else text

/-- What follows a date, a time, or both at the front of a text. -/
def scan? (text : List Char) : Option (List Char) :=
  ((date? text).map timeAfterDate).or (time? text)

end PadBench.Toml.Moment
