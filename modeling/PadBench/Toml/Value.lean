import PadBench.Toml.Moment
import PadBench.Toml.Numeral

/-!
The keys and values of TOML.

Readers take what they know from the front of a text and give back the rest. Arrays and inline tables
nest only so deep, and a dotted key has only so many parts.
-/
namespace PadBench.Toml

/-- The deepest nesting of arrays and inline tables, and the most parts of a key. -/
def deepest : Nat := 79

def isBare (c : Char) : Bool := c.isAlphanum || c == '-' || c == '_'

/-- One part of a key: bare, or a string on one line. -/
def keyPart? (text : List Char) : Option (String × List Char) :=
  match text.takeWhile isBare with
  | [] => (lineString? text).map fun (chars, rest) => (String.ofList chars, rest)
  | chars => some (String.ofList chars, text.dropWhile isBare)

/-- The parts of a key, at most `count`, with gaps around them. -/
def keyParts? : Nat → List Char → Option (List String × List Char)
  | 0, _ => none
  | count + 1, text => do
    let (part, rest) ← keyPart? (dropGaps text)
    match dropGaps rest with
    | '.' :: rest =>
      let (parts, rest) ← keyParts? count rest
      some (part :: parts, rest)
    | rest => some ([part], rest)

def key? (text : List Char) : Option (List String × List Char) := keyParts? deepest text

/-- What follows blanks, line ends and comments. A comment goes on to the end of its line. -/
def dropTrivia (inComment : Bool) : List Char → List Char
  | [] => []
  | '\r' :: '\n' :: rest => dropTrivia false rest
  | c :: rest =>
    if c = '\n' then dropTrivia false rest
    else if inComment && isVisible c then dropTrivia true rest
    else if isGap c then dropTrivia false rest
    else if c = '#' then dropTrivia true rest
    else c :: rest

/-- A value that holds no others. -/
def scalar? (text : List Char) : Option (Toml × List Char) :=
  match text with
  | 't' :: 'r' :: 'u' :: 'e' :: rest => some (.bool true, rest)
  | 'f' :: 'a' :: 'l' :: 's' :: 'e' :: rest => some (.bool false, rest)
  | '"' :: _ | '\'' :: _ => (string? text).map fun (chars, rest) => (.str (String.ofList chars), rest)
  | text =>
    match Moment.scan? text with
    | some rest => some (.moment (String.ofList (text.take (text.length - rest.length))), rest)
    | none => Numeral.scan? text

/-- The items of an array after its bracket or a comma. A comma may stand after the last one. -/
def items? (value : List Char → Option (Toml × List Char)) (done : List Toml) :
    Nat → List Char → Option (List Toml × List Char)
  | 0, _ => none
  | fuel + 1, text =>
    match dropTrivia false text with
    | ']' :: rest => some (done.reverse, rest)
    | text => do
      let (item, rest) ← value text
      match dropTrivia false rest with
      | ',' :: rest => items? value (item :: done) fuel rest
      | ']' :: rest => some ((item :: done).reverse, rest)
      | _ => none

/-- A key, an equals sign and a value. -/
def assignment? (value : List Char → Option (Toml × List Char)) (text : List Char) :
    Option ((List String × Toml) × List Char) := do
  let (key, rest) ← key? text
  match rest with
  | '=' :: rest =>
    let (value, rest) ← value (dropGaps rest)
    some ((key, value), rest)
  | _ => none

/-- The members of an inline table after its brace or a comma. All stand on one line. -/
def inlineMembers? (value : List Char → Option (Toml × List Char)) :
    Nat → Members → List Char → Option (Members × List Char)
  | 0, _, _ => none
  | fuel + 1, members, text => do
    let ((key, value'), rest) ← assignment? value text
    let members ← insert? value' true key members
    match dropGaps rest with
    | ',' :: rest => inlineMembers? value fuel members rest
    | '\x7d' :: rest => some (members, rest)
    | _ => none

/-- The members of an inline table after its brace. -/
def inlineTable? (value : List Char → Option (Toml × List Char)) (text : List Char) :
    Option (Members × List Char) :=
  match dropGaps text with
  | '\x7d' :: rest => some ([], rest)
  | text => inlineMembers? value text.length [] text

/-- A value in which arrays and tables nest no deeper than `depth`. -/
def nested? : Nat → List Char → Option (Toml × List Char)
  | 0, text => scalar? text
  | depth + 1, text =>
    match text with
    | '[' :: rest =>
      (items? (nested? depth) [] (rest.length + 1) rest).map fun (items, rest) =>
        (.arr .literal items, rest)
    | '\x7b' :: rest =>
      (inlineTable? (nested? depth) rest).map fun (members, rest) => (.table .literal members, rest)
    | text => scalar? text

def value? (text : List Char) : Option (Toml × List Char) := nested? deepest text

end PadBench.Toml
