import PadBench.Toml.Value

/-!
A TOML document: lines that assign values under the header last seen, which may be none.
-/
namespace PadBench.Toml

/-- What has been read so far, and the path of the header in force. -/
structure Document where
  members : Members
  path : List String

namespace Document

def empty : Document := ⟨[], []⟩

/-- What follows the rest of a line that may only hold gaps and a comment. -/
def lineRest? (text : List Char) : Option (List Char) :=
  let text := match dropGaps text with
    | '#' :: rest => rest.dropWhile isVisible
    | rest => rest
  match text with
  | [] => some []
  | text => lineEnd? text

/-- The path in a header and what follows it, after the first bracket. -/
def header? (text : List Char) : Option ((Bool × List String) × List Char) :=
  match text with
  | '[' :: rest => do
    let (path, rest) ← key? rest
    match rest with
    | ']' :: ']' :: rest => some ((true, path), rest)
    | _ => none
  | rest => do
    let (path, rest) ← key? rest
    match rest with
    | ']' :: rest => some ((false, path), rest)
    | _ => none

/-- The document after a header line. -/
def headerLine? (document : Document) (text : List Char) : Option (Document × List Char) := do
  let ((isArray, path), rest) ← header? text
  let rest ← lineRest? rest
  let members ← openHeader? isArray path document.members
  some (⟨members, path⟩, rest)

/-- The document after a line that assigns a value. -/
def assignmentLine? (document : Document) (text : List Char) : Option (Document × List Char) := do
  let ((key, value), rest) ← assignment? value? text
  let rest ← lineRest? rest
  let members ← within? (insert? value true key) document.path document.members
  some ({ document with members }, rest)

/-- The document after one line that is not at the end of the text. -/
def line? (document : Document) (text : List Char) : Option (Document × List Char) :=
  match dropGaps text with
  | [] => some (document, [])
  | '[' :: rest => headerLine? document rest
  | text =>
    match lineRest? text with
    | some rest => some (document, rest)
    | none => assignmentLine? document text

/-- The document after all lines of a text, at most `count`. -/
def lines? : Nat → Document → List Char → Option Document
  | _, document, [] => some document
  | 0, _, _ => none
  | count + 1, document, text => do
    let (document, rest) ← line? document text
    lines? count document rest

end Document

/-- The byte order mark, which may open a document. -/
def byteOrderMark : Char := '\uFEFF'

/-- The members of a document. Every line takes at least one character. -/
def parse? (text : List Char) : Option Members :=
  let text := match text with
    | first :: rest => if first = byteOrderMark then rest else text
    | [] => []
  (Document.lines? text.length .empty text).map Document.members

end PadBench.Toml
