import PadBench.Pad.Button

/-!
Button tables, and what they do to a word of buttons.

A table gives each canonical position a set of bits. For a wireless pad these are the report bits
that press the position, any one of them being enough; for a console, the wire bits it drives.
Several positions may share a bit.
-/
namespace PadBench

@[ext] structure ButtonTable where
  entry : PadButton → UInt32

namespace ButtonTable

/-- The table in which each position is its own bit. -/
def identity : ButtonTable := ⟨PadButton.mask⟩

/-- The table of the listed entries in the order of the positions; missing ones are empty. -/
def ofList (entries : List UInt32) : ButtonTable := ⟨fun button => entries.getD button.index 0⟩

def toList (table : ButtonTable) : List UInt32 := PadButton.all.map table.entry

/-- Whether the word holds any bit of the position's entry. -/
def presses (table : ButtonTable) (word : UInt32) (button : PadButton) : Bool :=
  table.entry button &&& word != 0

def isActive (table : ButtonTable) (button : PadButton) : Bool := table.entry button != 0

/-- The positions with an entry, in order. -/
def active (table : ButtonTable) : List PadButton := PadButton.all.filter table.isActive

/-- Every bit the table mentions. -/
def union (table : ButtonTable) : UInt32 := PadButton.gather (fun _ => true) table.entry

/-- The generic word of the active positions. -/
def coverage (table : ButtonTable) : UInt32 := PadButton.gather table.isActive PadButton.mask

/-- The generic word of the positions a report word presses. -/
def generic (source : ButtonTable) (word : UInt32) : UInt32 :=
  PadButton.gather (source.presses word) PadButton.mask

/-- The wire bits a report word drives: those of every position it presses. -/
def retarget (source wired : ButtonTable) (word : UInt32) : UInt32 :=
  PadButton.gather (source.presses word) wired.entry

/-- The wire bits a generic word drives. -/
def drive (wired : ButtonTable) (genericWord : UInt32) : UInt32 :=
  identity.retarget wired genericWord

end ButtonTable

end PadBench
