import PadBench.Link.Event
import PadBench.Text.Blank
import PadBench.Text.Utf8

/-!
A link over a stream of bytes: lines end with a line feed, and the last one may end with the stream.

Carriage returns and line feeds at the end of a line are no part of it. A line that is no UTF-8 fails,
and the next one is read as if nothing had happened.
-/
namespace PadBench

/-- What the stream still holds, and what has been written to it. -/
structure ByteStream where
  pending : List UInt8
  written : List UInt8
  deriving DecidableEq, Repr

namespace ByteStream

def ofBytes (bytes : List UInt8) : ByteStream := ⟨bytes, []⟩

def lineFeed : UInt8 := 0x0A

/-- The first line with its end, and what follows it. -/
def splitLine (bytes : List UInt8) : List UInt8 × List UInt8 :=
  let front := bytes.takeWhile (· != lineFeed)
  match bytes.dropWhile (· != lineFeed) with
  | [] => (front, [])
  | feed :: rest => (front ++ [feed], rest)

def isLineEnd (c : Char) : Bool := c == '\r' || c == '\n'

/-- What the bytes of a line mean. -/
def lineEvent (line : List UInt8) : LinkEvent :=
  match Text.Utf8.decode line with
  | .ok text => .line (String.ofList (Text.dropTail isLineEnd text))
  | .error fault => .failed fault.message

/-- The next event. At its end the stream stays closed. -/
def next (stream : ByteStream) : LinkEvent × ByteStream :=
  if stream.pending.isEmpty then (.closed, stream)
  else
    let (line, rest) := splitLine stream.pending
    (lineEvent line, { stream with pending := rest })

def write (stream : ByteStream) (bytes : List UInt8) : ByteStream :=
  { stream with written := stream.written ++ bytes }

def link : Link ByteStream where
  write stream frame := (none, stream.write frame)
  read stream := some stream.next

/-- A line takes at least one byte of a stream that holds any. -/
theorem splitLine_shorter {bytes : List UInt8} (nonempty : bytes ≠ []) :
    (splitLine bytes).2.length < bytes.length := by
  simp only [splitLine]
  split
  · exact List.length_pos_iff.mpr nonempty
  next feed rest tail =>
    have bound := (List.dropWhile_sublist (· != lineFeed) (l := bytes)).length_le
    rw [tail] at bound
    exact bound

/-- Every event up to the first that is no line. -/
def lines (stream : ByteStream) : List LinkEvent :=
  match stream with
  | ⟨[], _⟩ => []
  | ⟨byte :: rest, written⟩ =>
    match lineEvent (splitLine (byte :: rest)).1 with
    | .line text => .line text :: lines ⟨(splitLine (byte :: rest)).2, written⟩
    | other => [other]
  termination_by stream.pending.length
  decreasing_by exact splitLine_shorter (by simp)

end ByteStream

end PadBench
