import PadBench.Json.Numeral
import PadBench.Json.Text

/-!
The compact text of a JSON value: no blank outside strings, and the members of an object in the order
they are kept in.
-/
namespace PadBench.Json

mutual

def chars : Json → List Char
  | .null => ['n', 'u', 'l', 'l']
  | .bool true => ['t', 'r', 'u', 'e']
  | .bool false => ['f', 'a', 'l', 's', 'e']
  | .int value => Numeral.intChars value
  | .real value => Numeral.realChars value
  | .str text => Text.quoted text.toList
  | .arr items => '[' :: itemChars items ++ [']']
  | .obj members => '\x7b' :: memberChars members ++ ['\x7d']

/-- The items with commas between them. -/
def itemChars : List Json → List Char
  | [] => []
  | [item] => item.chars
  | item :: next :: rest => item.chars ++ ',' :: itemChars (next :: rest)

/-- The members with commas between them. -/
def memberChars : List (String × Json) → List Char
  | [] => []
  | [(key, value)] => Text.quoted key.toList ++ ':' :: value.chars
  | (key, value) :: next :: rest =>
    Text.quoted key.toList ++ ':' :: value.chars ++ ',' :: memberChars (next :: rest)

end

def render (value : Json) : String := String.ofList value.chars

end PadBench.Json
