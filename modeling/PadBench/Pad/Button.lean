/-!
The canonical positions of a pad, which every wireless pad is folded into and every console is fed
from.

The first eight positions are the directions of the two sticks, `ld` is the D-pad, `rd` the cluster
of the right side, `rb` the four face buttons, `m` the menu cluster, and `l` and `r` the shoulder
groups with their analog triggers `lm` and `rm`.
-/
namespace PadBench

/-- The word with bit `index` alone. -/
def bit (index : Nat) : UInt32 := 1 <<< UInt32.ofNat index

inductive PadButton where
  | lxLeft | lxRight | lyDown | lyUp
  | rxLeft | rxRight | ryDown | ryUp
  | ldLeft | ldRight | ldDown | ldUp
  | rdLeft | rdRight | rdDown | rdUp
  | rbLeft | rbRight | rbDown | rbUp
  | mm | ms | mt | mq
  | lm | ls | lt | lj
  | rm | rs | rt | rj
  deriving DecidableEq, Repr

namespace PadButton

/-- Every position, in the order of the bits. -/
def all : List PadButton := [
  .lxLeft, .lxRight, .lyDown, .lyUp, .rxLeft, .rxRight, .ryDown, .ryUp,
  .ldLeft, .ldRight, .ldDown, .ldUp, .rdLeft, .rdRight, .rdDown, .rdUp,
  .rbLeft, .rbRight, .rbDown, .rbUp, .mm, .ms, .mt, .mq,
  .lm, .ls, .lt, .lj, .rm, .rs, .rt, .rj]

/-- The bit of a generic word that stands for the position. -/
def index : PadButton → Nat
  | .lxLeft => 0 | .lxRight => 1 | .lyDown => 2 | .lyUp => 3
  | .rxLeft => 4 | .rxRight => 5 | .ryDown => 6 | .ryUp => 7
  | .ldLeft => 8 | .ldRight => 9 | .ldDown => 10 | .ldUp => 11
  | .rdLeft => 12 | .rdRight => 13 | .rdDown => 14 | .rdUp => 15
  | .rbLeft => 16 | .rbRight => 17 | .rbDown => 18 | .rbUp => 19
  | .mm => 20 | .ms => 21 | .mt => 22 | .mq => 23
  | .lm => 24 | .ls => 25 | .lt => 26 | .lj => 27
  | .rm => 28 | .rs => 29 | .rt => 30 | .rj => 31

/-- The label scenarios carry. -/
def name : PadButton → String
  | .lxLeft => "LX_LEFT" | .lxRight => "LX_RIGHT" | .lyDown => "LY_DOWN" | .lyUp => "LY_UP"
  | .rxLeft => "RX_LEFT" | .rxRight => "RX_RIGHT" | .ryDown => "RY_DOWN" | .ryUp => "RY_UP"
  | .ldLeft => "LD_LEFT" | .ldRight => "LD_RIGHT" | .ldDown => "LD_DOWN" | .ldUp => "LD_UP"
  | .rdLeft => "RD_LEFT" | .rdRight => "RD_RIGHT" | .rdDown => "RD_DOWN" | .rdUp => "RD_UP"
  | .rbLeft => "RB_LEFT" | .rbRight => "RB_RIGHT" | .rbDown => "RB_DOWN" | .rbUp => "RB_UP"
  | .mm => "MM" | .ms => "MS" | .mt => "MT" | .mq => "MQ"
  | .lm => "LM" | .ls => "LS" | .lt => "LT" | .lj => "LJ"
  | .rm => "RM" | .rs => "RS" | .rt => "RT" | .rj => "RJ"

def mask (button : PadButton) : UInt32 := bit button.index

def ofIndex? (index : Nat) : Option PadButton := all[index]?

/-- Which way the position moves its axis: right, up and the triggers count `1`, left and down `-1`,
and `inverted` exchanges the two. All other positions count `1`. -/
def sign (button : PadButton) (inverted : Bool) : Int :=
  match button with
  | .lxRight | .lyUp | .rxRight | .ryUp | .lm | .rm => if inverted then -1 else 1
  | .lxLeft | .lyDown | .rxLeft | .ryDown => if inverted then 1 else -1
  | _ => 1

/-- The union of `word b` over the positions `b` that are `chosen`. Every digital stage is one. -/
def gather (chosen : PadButton → Bool) (word : PadButton → UInt32) : UInt32 :=
  all.foldl (fun sum button => if chosen button then sum ||| word button else sum) 0

theorem mem_all (button : PadButton) : button ∈ all := by cases button <;> decide

theorem ofIndex?_index (button : PadButton) : ofIndex? button.index = some button := by
  cases button <;> rfl

end PadButton

end PadBench
