import PadBench.Files.Tree
import PadBench.Json.Printing

/-!
Values as lines of text: each in its compact form, with a line feed after it.
-/
namespace PadBench

/-- What has been written, and in how many lines. -/
structure JsonLines where
  text : String
  lines : Nat
  deriving DecidableEq, Repr

namespace JsonLines

def empty : JsonLines := ⟨"", 0⟩

/-- The line of a value, with its end. -/
def line (value : Json) : String := value.render ++ "\n"

def write (written : JsonLines) (value : Json) : JsonLines :=
  ⟨written.text ++ line value, written.lines + 1⟩

def ofList (values : List Json) : JsonLines := values.foldl write empty

/-- The files once what has been written is at the end of the one at a path. -/
def appendTo (written : JsonLines) (tree : Files.Tree) (path : String) :
    Except Files.Fault Files.Tree :=
  tree.append path written.text

/-- One writer after the other on one file: the files in the end, and what each writer counted. -/
def sessions (path : String) : List (List Json) → Files.Tree → Except Files.Fault (Files.Tree × List Nat)
  | [], tree => .ok (tree, [])
  | values :: rest, tree => do
    let written := ofList values
    let tree ← written.appendTo tree path
    let (tree, counts) ← sessions path rest tree
    return (tree, written.lines :: counts)

end JsonLines

end PadBench
