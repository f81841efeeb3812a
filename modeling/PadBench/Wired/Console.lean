import PadBench.Wired.Axes
import PadBench.Wired.Buttons

/-!
The consoles an adapter can feed.
-/
namespace PadBench

/-- What is known of a console's controller port. `idle` is the wire word of a pad nobody touches. -/
structure WiredProfile where
  name : String
  systemId : UInt8
  buttons : ButtonTable
  idle : UInt32
  axes : AxisSet

inductive Console where
  | gameCube | nintendo64 | saturn
  deriving DecidableEq, Repr

namespace Console

def all : List Console := [.gameCube, .nintendo64, .saturn]

/-- The name settings use. -/
def name : Console → String
  | .gameCube => "gc"
  | .nintendo64 => "n64"
  | .saturn => "saturn"

/-- The number an adapter knows the console by. -/
def systemId : Console → UInt8
  | .gameCube => 18
  | .nintendo64 => 15
  | .saturn => 12

def buttons : Console → ButtonTable
  | .gameCube => Wired.Buttons.gameCube
  | .nintendo64 => Wired.Buttons.nintendo64
  | .saturn => Wired.Buttons.saturn

/-- The buttons of a Saturn pad are low while pressed, on all sixteen wires. -/
def idle : Console → UInt32
  | .saturn => 0xFFFF
  | _ => 0

def axes : Console → AxisSet
  | .gameCube => Wired.Axes.gameCube
  | .nintendo64 => Wired.Axes.nintendo64
  | .saturn => Wired.Axes.saturn

def profile (console : Console) : WiredProfile :=
  ⟨console.name, console.systemId, console.buttons, console.idle, console.axes⟩

def ofName? (name : String) : Option Console := all.find? fun console => console.name == name

def ofSystemId? (id : UInt8) : Option Console := all.find? fun console => console.systemId == id

end Console

end PadBench
