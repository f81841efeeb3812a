/-!
What a link reports when the next line of the adapter's output is awaited.
-/
namespace PadBench

inductive LinkEvent where
  /-- A line, without its end. -/
  | line (text : String)
  /-- The adapter has closed the link. -/
  | closed
  | failed (reason : String)
  /-- Nothing came in the time allowed. -/
  | silent
  deriving DecidableEq, Repr

/-- The far end of a link, as a machine. Writing a frame may fail with a reason. Reading gives the next
event, or nothing at all when the user ends the run while it is awaited. -/
structure Link (σ : Type) where
  write : σ → List UInt8 → Option String × σ
  read : σ → Option (LinkEvent × σ)

end PadBench
