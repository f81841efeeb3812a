import PadBench.Files.Fault

/-!
The files below one directory, as far as a program that reads and appends can tell them.

A path is a text of parts between slashes. A part that is empty or `.` stays where it is, and `..` goes
up; each part but the last must lead into a directory.
-/
namespace PadBench.Files

/-- The names on the way to a file or a directory. -/
abbrev Place := List String

/-- The files with their contents, and the directories. -/
structure Tree where
  files : List (Place × String)
  directories : List Place
  deriving DecidableEq, Repr

/-- The parts of a path, those that lead nowhere among them. -/
def allParts (path : String) : List String := (path.toList.splitOn '/').map String.ofList

/-- The parts of a path that lead anywhere. -/
def parts (path : String) : List String :=
  (allParts path).filter fun part => part != "" && part != "."

/-- What a path begins with: a slash, if it leads from the outermost directory. -/
def start (path : String) : String := if path.toList.head? = some '/' then "/" else ""

/-- A path without the parts that lead nowhere. -/
def plain (path : String) : String := start path ++ String.intercalate "/" (parts path)

/-- The path of the directory that the last part is in, if there is one on the way. -/
def directory? (path : String) : Option String :=
  match (parts path).dropLast with
  | [] => none
  | parts => some (start path ++ String.intercalate "/" parts)

/-- The name of the file at the end of a path, if a file can be there. -/
def fileName? (path : String) : Option String :=
  match (parts path).getLast? with
  | some ".." | none => none
  | name => name

/-- Whether a path can only mean a directory. -/
def meansDirectory (path : String) : Bool :=
  match (allParts path).getLast? with
  | some part => ["", ".", ".."].contains part
  | none => true

namespace Tree

def empty : Tree := ⟨[], []⟩

/-- The text of a place. -/
def name (place : Place) : String := String.intercalate "/" place

def content? (tree : Tree) (place : Place) : Option String := tree.files.lookup place

def isDirectory (tree : Tree) (place : Place) : Bool := place.isEmpty || tree.directories.contains place

/-- One part further, from a directory into a directory. -/
def enter (tree : Tree) (place : Place) (part : String) : Except Fault Place :=
  if part = ".." then .ok place.dropLast
  else if tree.isDirectory (place ++ [part]) then .ok (place ++ [part])
  else if (tree.content? (place ++ [part])).isSome then .error .notDirectory
  else .error .notFound

/-- The directory at the end of some parts. -/
def directory (tree : Tree) (parts : List String) : Except Fault Place := parts.foldlM tree.enter []

/-- The content of the file at a path. -/
def read (tree : Tree) (path : String) : Except Fault String := do
  match fileName? path with
  | none => throw .isDirectory
  | some name =>
    let place := (← tree.directory (parts path).dropLast) ++ [name]
    if tree.isDirectory place then throw .isDirectory
    match tree.content? place with
    | some content => if meansDirectory path then throw .notDirectory else return content
    | none => throw .notFound

/-- Whether a path leads to a file or a directory. -/
def has (tree : Tree) (path : String) : Bool :=
  match tree.read path with
  | .ok _ | .error .isDirectory => true
  | .error _ => false

/-- One part further, the directory being made if it is missing. A file in the way is told apart by
whether the path ends there. -/
def makeStep (isLast : Bool) : Tree × Place → String → Except Fault (Tree × Place)
  | (tree, place), part =>
    match tree.enter place part with
    | .ok place => .ok (tree, place)
    | .error .notFound =>
      let place := place ++ [part]
      .ok ({ tree with directories := tree.directories ++ [place] }, place)
    | .error fault => .error (if isLast then .alreadyExists else fault)

/-- The tree with every directory on the way, and the place they lead to. -/
def make (tree : Tree) (place : Place) : List String → Except Fault (Tree × Place)
  | [] => .ok (tree, place)
  | part :: rest => do
    let (tree, place) ← makeStep rest.isEmpty (tree, place) part
    make tree place rest

/-- The files with some text added to the content of one, or a new one at the end. -/
def extend (place : Place) (text : String) : List (Place × String) → List (Place × String)
  | [] => [(place, text)]
  | (other, content) :: rest =>
    if other = place then (other, content ++ text) :: rest
    else (other, content) :: extend place text rest

/-- The tree with some text at the end of the file at a path. The file and the directories on the way are
made if they are missing. -/
def append (tree : Tree) (path text : String) : Except Fault Tree := do
  let (tree, place) ← tree.make [] (parts path).dropLast
  match fileName? path with
  | none => throw .isDirectory
  | some name =>
    let place := place ++ [name]
    if meansDirectory path || tree.isDirectory place then throw .isDirectory
    return { tree with files := extend place text tree.files }

/-- The directories on the way to a place, from the outermost in. -/
def ancestors (place : Place) : List Place := (List.range place.length).drop 1 |>.map place.take

/-- The tree of some files, by their paths. -/
def ofList (files : List (String × String)) : Tree :=
  let files := files.map fun (path, content) => (parts path, content)
  ⟨files, (files.flatMap fun (place, _) => ancestors place).eraseDups⟩

/-- The paths of all files. -/
def paths (tree : Tree) : List String := tree.files.map fun (place, _) => name place

end Tree

end PadBench.Files
