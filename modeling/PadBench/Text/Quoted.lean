import PadBench.Text.Hexadecimal
import PadBench.Text.Printable

/-!
A text in quotes, as messages show it: all on one line, and every character visible.
-/
namespace PadBench.Text

/-- The short names of the commonest hidden characters, and of the two that quoting itself uses. -/
def shortEscape? : Char → Option Char
  | '\x00' => some '0'
  | '\t' => some 't'
  | '\n' => some 'n'
  | '\r' => some 'r'
  | '"' => some '"'
  | '\\' => some '\\'
  | _ => none

def escaped (c : Char) : String :=
  match shortEscape? c with
  | some name => String.ofList ['\\', name]
  | none => if isPrintable c then c.toString else "\\u\x7b" ++ lowerHex 1 c.toNat ++ "\x7d"

def quoted (text : String) : String := "\"" ++ String.join (text.toList.map escaped) ++ "\""

end PadBench.Text
