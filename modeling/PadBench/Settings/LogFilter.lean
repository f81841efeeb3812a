/-!
Which log levels can be set: a list of directives with commas between them, each a level, a target, or a
target with a level after an equals sign.
-/
namespace PadBench.Settings.LogFilter

def levels : List String := ["trace", "debug", "info", "warn", "error", "off", "0", "1", "2", "3", "4", "5"]

/-- A level in letters of any case, or none at all. -/
def isLevel (text : List Char) : Bool :=
  text.isEmpty || levels.contains (String.ofList (text.map Char.toLower))

/-- What follows the first equals sign outside square brackets. -/
def assigned? (inBrackets : Bool) : List Char → Option (List Char)
  | [] => none
  | c :: rest =>
    if c = '=' ∧ !inBrackets then some rest
    else assigned? (c == '[' || (inBrackets && c != ']')) rest

def isDirective (text : List Char) : Bool := (assigned? false text).all isLevel

def isFilter (text : String) : Bool := (text.splitOn ",").all fun part => isDirective part.toList

end PadBench.Settings.LogFilter
