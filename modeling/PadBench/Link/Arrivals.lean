import PadBench.Link.ByteStream

/-!
What has arrived on a link, as long as nobody asked for it.

Bytes arrive in pieces of any size, and a line is known once its end is there or the link is closed. A
link that has closed then reads as the stream of its bytes does.
-/
namespace PadBench

/-- The bytes nobody asked for yet, and how the link ended, if it did. -/
structure Arrivals where
  bytes : List UInt8
  ending : Option LinkEvent
  deriving DecidableEq, Repr

namespace Arrivals

def empty : Arrivals := ⟨[], none⟩

def add (arrivals : Arrivals) (bytes : List UInt8) : Arrivals :=
  { arrivals with bytes := arrivals.bytes ++ bytes }

def finish (arrivals : Arrivals) (ending : LinkEvent) : Arrivals :=
  { arrivals with ending := some ending }

/-- The next event, once it is known. -/
def next? (arrivals : Arrivals) : Option (LinkEvent × Arrivals) :=
  let (line, rest) := ByteStream.splitLine arrivals.bytes
  let known := some (ByteStream.lineEvent line, { arrivals with bytes := rest })
  if line.getLast? = some ByteStream.lineFeed then known
  else
    match arrivals.ending with
    | none => none
    | some .closed => if line.isEmpty then some (.closed, arrivals) else known
    | some ending => some (ending, arrivals)

end Arrivals

end PadBench
