/-!
Why a file cannot be used.
-/
namespace PadBench.Files

inductive Fault where
  | notFound
  | isDirectory
  | notDirectory
  | alreadyExists
  /-- The content is no text. -/
  | invalidData
  | other (detail : String)
  deriving DecidableEq, Repr

namespace Fault

/-- The kind of the fault in words. -/
def kind : Fault → String
  | .notFound => "entity not found"
  | .isDirectory => "is a directory"
  | .notDirectory => "not a directory"
  | .alreadyExists => "entity already exists"
  | .invalidData => "invalid data"
  | .other detail => detail

/-- What a system says of the fault. -/
def message : Fault → String
  | .notFound => "No such file or directory (os error 2)"
  | .isDirectory => "Is a directory (os error 21)"
  | .notDirectory => "Not a directory (os error 20)"
  | .alreadyExists => "File exists (os error 17)"
  | .invalidData => "stream did not contain valid UTF-8"
  | .other detail => detail

end Fault

end PadBench.Files
