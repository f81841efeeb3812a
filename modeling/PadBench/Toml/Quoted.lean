/-!
The four kinds of TOML strings, read from the character after their opening quotes.

A literal string has no escapes. A string in three quotes may go over several lines: a line end right
after the opening is dropped, every other one is a line feed, and a backslash at the end of a line joins
it to the next text.
-/
namespace PadBench.Toml

/-- A character that may stand as it is: a tab, or anything that is no control. -/
def isVisible (c : Char) : Bool := c == '\t' || (c.toNat ≥ 0x20 && c.toNat != 0x7F)

def isGap (c : Char) : Bool := c == ' ' || c == '\t'

def dropGaps (text : List Char) : List Char := text.dropWhile isGap

/-- What follows a line end at the front. -/
def lineEnd? : List Char → Option (List Char)
  | '\n' :: rest => some rest
  | '\r' :: '\n' :: rest => some rest
  | _ => none

def dropLineEnd (text : List Char) : List Char := (lineEnd? text).getD text

def hexDigit? (c : Char) : Option Nat :=
  if c.isDigit then some (c.toNat - 48)
  else if 'a' ≤ c ∧ c ≤ 'f' then some (c.toNat - 87)
  else if 'A' ≤ c ∧ c ≤ 'F' then some (c.toNat - 55)
  else none

/-- The character of a number in hexadecimal, if there is one. -/
def charOfHex? (digits : List Char) : Option Char := do
  let code ← digits.foldlM (fun code c => (hexDigit? c).map (code * 16 + ·)) 0
  if h : code.isValidChar then some (Char.ofNatAux code h) else none

/-- The character of a one-letter escape. -/
def shortEscape? : Char → Option Char
  | 'b' => some '\x08'
  | 't' => some '\t'
  | 'n' => some '\n'
  | 'f' => some '\x0c'
  | 'r' => some '\r'
  | '"' => some '"'
  | '\\' => some '\\'
  | _ => none

/-- A string in double quotes. -/
def basic? (done : List Char) : List Char → Option (List Char × List Char)
  | '"' :: rest => some (done.reverse, rest)
  | '\\' :: 'u' :: a :: b :: c :: d :: rest =>
    match charOfHex? [a, b, c, d] with
    | some char => basic? (char :: done) rest
    | none => none
  | '\\' :: 'U' :: a :: b :: c :: d :: e :: f :: g :: h :: rest =>
    match charOfHex? [a, b, c, d, e, f, g, h] with
    | some char => basic? (char :: done) rest
    | none => none
  | '\\' :: name :: rest =>
    match shortEscape? name with
    | some char => basic? (char :: done) rest
    | none => none
  | c :: rest => if isVisible c && c != '\\' then basic? (c :: done) rest else none
  | [] => none

/-- A string in single quotes. -/
def literal? (done : List Char) : List Char → Option (List Char × List Char)
  | '\'' :: rest => some (done.reverse, rest)
  | c :: rest => if isVisible c then literal? (c :: done) rest else none
  | [] => none

/-- Whether a backslash before this text joins its line to the next. -/
def joinsLines (text : List Char) : Bool := (lineEnd? (dropGaps text)).isSome

/-- A string in three double quotes. Up to two more quotes at its end belong to it. While `joining`,
blanks and line ends are dropped. -/
def longBasic? (joining : Bool) (done : List Char) : List Char → Option (List Char × List Char)
  | '"' :: '"' :: '"' :: '"' :: '"' :: rest => some (('"' :: '"' :: done).reverse, rest)
  | '"' :: '"' :: '"' :: '"' :: rest => some (('"' :: done).reverse, rest)
  | '"' :: '"' :: '"' :: rest => some (done.reverse, rest)
  | '\r' :: '\n' :: rest => longBasic? joining (if joining then done else '\n' :: done) rest
  | '\n' :: rest => longBasic? joining (if joining then done else '\n' :: done) rest
  | '\\' :: rest =>
    if joinsLines rest then longBasic? true done rest
    else match rest with
      | 'u' :: a :: b :: c :: d :: rest =>
        match charOfHex? [a, b, c, d] with
        | some char => longBasic? false (char :: done) rest
        | none => none
      | 'U' :: a :: b :: c :: d :: e :: f :: g :: h :: rest =>
        match charOfHex? [a, b, c, d, e, f, g, h] with
        | some char => longBasic? false (char :: done) rest
        | none => none
      | name :: rest =>
        match shortEscape? name with
        | some char => longBasic? false (char :: done) rest
        | none => none
      | [] => none
  | c :: rest =>
    if joining && isGap c then longBasic? true done rest
    else if isVisible c then longBasic? false (c :: done) rest
    else none
  | [] => none

/-- A string in three single quotes. -/
def longLiteral? (done : List Char) : List Char → Option (List Char × List Char)
  | '\'' :: '\'' :: '\'' :: '\'' :: '\'' :: rest => some (('\'' :: '\'' :: done).reverse, rest)
  | '\'' :: '\'' :: '\'' :: '\'' :: rest => some (('\'' :: done).reverse, rest)
  | '\'' :: '\'' :: '\'' :: rest => some (done.reverse, rest)
  | '\r' :: '\n' :: rest => longLiteral? ('\n' :: done) rest
  | '\n' :: rest => longLiteral? ('\n' :: done) rest
  | c :: rest => if isVisible c then longLiteral? (c :: done) rest else none
  | [] => none

/-- A string on one line, with its quotes. -/
def lineString? : List Char → Option (List Char × List Char)
  | '"' :: rest => basic? [] rest
  | '\'' :: rest => literal? [] rest
  | _ => none

/-- A string of any kind, with its quotes. -/
def string? : List Char → Option (List Char × List Char)
  | '"' :: '"' :: '"' :: rest => longBasic? false [] (dropLineEnd rest)
  | '\'' :: '\'' :: '\'' :: rest => longLiteral? [] (dropLineEnd rest)
  | text => lineString? text

end PadBench.Toml
