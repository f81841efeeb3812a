import PadBench.Text.Hexadecimal

/-!
The strings of JSON: in quotes, with the quote, the backslash and the controls escaped.
-/
namespace PadBench.Json.Text

/-- The controls with an escape of one letter, and the two characters that escaping uses. -/
def shortEscape? : Char → Option Char
  | '"' => some '"'
  | '\\' => some '\\'
  | '\x08' => some 'b'
  | '\x0c' => some 'f'
  | '\n' => some 'n'
  | '\r' => some 'r'
  | '\t' => some 't'
  | _ => none

def escaped (c : Char) : List Char :=
  match shortEscape? c with
  | some letter => ['\\', letter]
  | none =>
    if c.toNat < 0x20 then '\\' :: 'u' :: (PadBench.Text.lowerHex 4 c.toNat).toList else [c]

def quoted (text : List Char) : List Char := '"' :: text.flatMap escaped ++ ['"']

/-- What the letter after a backslash stands for. -/
def unescape? : Char → Option Char
  | '"' => some '"'
  | '\\' => some '\\'
  | '/' => some '/'
  | 'b' => some '\x08'
  | 'f' => some '\x0c'
  | 'n' => some '\n'
  | 'r' => some '\r'
  | 't' => some '\t'
  | _ => none

def hexDigit? (c : Char) : Option Nat :=
  if c.isDigit then some (c.toNat - '0'.toNat)
  else if 'a' ≤ c ∧ c ≤ 'f' then some (c.toNat - 'a'.toNat + 10)
  else if 'A' ≤ c ∧ c ≤ 'F' then some (c.toNat - 'A'.toNat + 10)
  else none

/-- The number of four hexadecimal digits. -/
def fourDigits? (a b c d : Char) : Option Nat := do
  some (((((← hexDigit? a) * 16 + (← hexDigit? b)) * 16) + (← hexDigit? c)) * 16 + (← hexDigit? d))

def isHighSurrogate (unit : Nat) : Bool := 0xD800 ≤ unit && unit < 0xDC00
def isLowSurrogate (unit : Nat) : Bool := 0xDC00 ≤ unit && unit < 0xE000

/-- The character of a pair of surrogates. -/
def pairOf (high low : Nat) : Char := Char.ofNat (0x10000 + (high - 0xD800) * 0x400 + (low - 0xDC00))

/-- The character that an escape by number stands for, and what follows it: one unit, or two that form
a pair. A surrogate alone is refused. -/
def numbered? : List Char → Option (Char × List Char)
  | a :: b :: c :: d :: rest => do
    let unit ← fourDigits? a b c d
    if isLowSurrogate unit then none
    else if isHighSurrogate unit then
      match rest with
      | '\\' :: 'u' :: a :: b :: c :: d :: rest => do
        let low ← fourDigits? a b c d
        if isLowSurrogate low then some (pairOf unit low, rest) else none
      | _ => none
    else some (Char.ofNat unit, rest)
  | _ => none

/-- The characters in `done`, last first, then the text up to the closing quote; and what follows the
quote. Each step takes at least one character, so `fuel` need not exceed the length. -/
def scan? (done : List Char) : (fuel : Nat) → List Char → Option (List Char × List Char)
  | 0, _ | _, [] => none
  | _ + 1, '"' :: rest => some (done.reverse, rest)
  | fuel + 1, '\\' :: 'u' :: rest =>
    match numbered? rest with
    | none => none
    | some (c, rest) => scan? (c :: done) fuel rest
  | fuel + 1, '\\' :: letter :: rest =>
    match unescape? letter with
    | none => none
    | some c => scan? (c :: done) fuel rest
  | fuel + 1, c :: rest =>
    if c = '\\' ∨ c.toNat < 0x20 then none else scan? (c :: done) fuel rest

end PadBench.Json.Text
