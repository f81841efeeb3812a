import PadBench.Json.Numeral
import PadBench.Json.Text

/-!
The tokens of a JSON text: its punctuation and its scalar values, without the blanks between them.
-/
namespace PadBench.Json

inductive Token where
  | openObject | closeObject | openArray | closeArray | colon | comma
  | scalar (value : Json)

namespace Token

def isBlank (c : Char) : Bool := c == ' ' || c == '\t' || c == '\n' || c == '\r'

def punctuation? : Char → Option Token
  | '\x7b' => some .openObject
  | '\x7d' => some .closeObject
  | '[' => some .openArray
  | ']' => some .closeArray
  | ':' => some .colon
  | ',' => some .comma
  | _ => none

/-- The token at the front of a text that starts with no blank, and what follows it. -/
def next? : List Char → Option (Token × List Char)
  | 'n' :: 'u' :: 'l' :: 'l' :: rest => some (.scalar .null, rest)
  | 't' :: 'r' :: 'u' :: 'e' :: rest => some (.scalar (.bool true), rest)
  | 'f' :: 'a' :: 'l' :: 's' :: 'e' :: rest => some (.scalar (.bool false), rest)
  | '"' :: rest =>
    (Text.scan? [] rest.length rest).map fun (text, rest) => (.scalar (.str (String.ofList text)), rest)
  | c :: rest =>
    match punctuation? c with
    | some token => some (token, rest)
    | none => (Numeral.scan? (c :: rest)).map fun (value, rest) => (.scalar value, rest)
  | [] => none

/-- The tokens in `done`, last first, and then those of the text. Every token takes at least one
character, so `fuel` need not exceed the length. -/
def scan? (done : List Token) : (fuel : Nat) → List Char → Option (List Token)
  | _, [] => some done.reverse
  | 0, _ :: _ => none
  | fuel + 1, c :: rest =>
    if isBlank c then scan? done fuel rest
    else
      match next? (c :: rest) with
      | none => none
      | some (token, rest) => scan? (token :: done) fuel rest

end Token

/-- The tokens of a text, unless something in it is no token. -/
def tokens? (text : List Char) : Option (List Token) := Token.scan? [] text.length text

end PadBench.Json
