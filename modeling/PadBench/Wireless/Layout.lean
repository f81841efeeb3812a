/-!
Where each button sits in the button word of a wireless report, one namespace for each report format.
-/
namespace PadBench.Wireless.Layout

/-! Reports of the fourth and fifth generation. -/
namespace PlayStation

def square : Nat := 4
def cross : Nat := 5
def circle : Nat := 6
def triangle : Nat := 7
def l1 : Nat := 8
def r1 : Nat := 9
def l2 : Nat := 10
def r2 : Nat := 11
def share : Nat := 12
def options : Nat := 13
def l3 : Nat := 14
def r3 : Nat := 15
def home : Nat := 16
def touchpad : Nat := 17
def mute : Nat := 18

/-- The positions under the labels of the hardware. -/
def labelled : List (String × Nat) := [
  ("S", square), ("X", cross), ("C", circle), ("T", triangle), ("L1", l1), ("R1", r1),
  ("L2", l2), ("R2", r2), ("SHARE", share), ("OPTIONS", options), ("L3", l3), ("R3", r3),
  ("PS", home), ("TP", touchpad), ("MUTE", mute)]

end PlayStation

/-! Reports of the third generation. -/
namespace PlayStation3

def select : Nat := 8
def l3 : Nat := 9
def r3 : Nat := 10
def start : Nat := 11
def dUp : Nat := 12
def dRight : Nat := 13
def dDown : Nat := 14
def dLeft : Nat := 15
def l2 : Nat := 16
def r2 : Nat := 17
def l1 : Nat := 18
def r1 : Nat := 19
def triangle : Nat := 20
def circle : Nat := 21
def cross : Nat := 22
def square : Nat := 23
def home : Nat := 24

/-- The positions under the labels of the hardware. -/
def labelled : List (String × Nat) := [
  ("SELECT", select), ("L3", l3), ("R3", r3), ("START", start), ("D_UP", dUp),
  ("D_RIGHT", dRight), ("D_DOWN", dDown), ("D_LEFT", dLeft), ("L2", l2), ("R2", r2), ("L1", l1),
  ("R1", r1), ("T", triangle), ("C", circle), ("X", cross), ("S", square), ("PS", home)]

end PlayStation3

/-! Reports over Bluetooth Low Energy. -/
namespace Xbox

def a : Nat := 0
def b : Nat := 1
def x : Nat := 3
def y : Nat := 4
def lb : Nat := 6
def rb : Nat := 7
def view : Nat := 10
def menu : Nat := 11
def guide : Nat := 12
def lj : Nat := 13
def rj : Nat := 14
def share : Nat := 16

/-- The positions under the labels of the hardware. -/
def labelled : List (String × Nat) := [
  ("A", a), ("B", b), ("X", x), ("Y", y), ("LB", lb), ("RB", rb), ("VIEW", view), ("MENU", menu),
  ("XBOX", guide), ("LJ", lj), ("RJ", rj), ("SHARE", share)]

end Xbox

/-! The simple report every controller of the family starts with. -/
namespace SwitchSimple

def b : Nat := 0
def a : Nat := 1
def y : Nat := 2
def x : Nat := 3
def l : Nat := 4
def r : Nat := 5
def zl : Nat := 6
def zr : Nat := 7
def minus : Nat := 8
def plus : Nat := 9
def lj : Nat := 10
def rj : Nat := 11
def home : Nat := 12
def capture : Nat := 13
def sl : Nat := 14
def sr : Nat := 15

/-- The positions under the labels of the hardware. -/
def labelled : List (String × Nat) := [
  ("B", b), ("A", a), ("Y", y), ("X", x), ("L", l), ("R", r), ("ZL", zl), ("ZR", zr),
  ("MINUS", minus), ("PLUS", plus), ("LJ", lj), ("RJ", rj), ("HOME", home), ("CAPTURE", capture),
  ("SL", sl), ("SR", sr)]

end SwitchSimple

/-! The full report: positions in the word after the timer byte, whose low byte tells battery and
connection. -/
namespace SwitchFull

def y : Nat := 8
def x : Nat := 9
def b : Nat := 10
def a : Nat := 11
def rSr : Nat := 12
def rSl : Nat := 13
def r : Nat := 14
def zr : Nat := 15
def minus : Nat := 16
def plus : Nat := 17
def rj : Nat := 18
def lj : Nat := 19
def home : Nat := 20
def capture : Nat := 21
def down : Nat := 24
def up : Nat := 25
def right : Nat := 26
def left : Nat := 27
def lSr : Nat := 28
def lSl : Nat := 29
def l : Nat := 30
def zl : Nat := 31

/-- The positions under the labels of the hardware. -/
def labelled : List (String × Nat) := [
  ("Y", y), ("X", x), ("B", b), ("A", a), ("R_SR", rSr), ("R_SL", rSl), ("R", r), ("ZR", zr),
  ("MINUS", minus), ("PLUS", plus), ("RJ", rj), ("LJ", lj), ("HOME", home), ("CAPTURE", capture),
  ("DOWN", down), ("UP", up), ("RIGHT", right), ("LEFT", left), ("L_SR", lSr), ("L_SL", lSl),
  ("L", l), ("ZL", zl)]

end SwitchFull

/-! The buttons of the remote itself. -/
namespace WiiRemote

def dLeft : Nat := 0
def dRight : Nat := 1
def dDown : Nat := 2
def dUp : Nat := 3
def plus : Nat := 4
def two : Nat := 8
def one : Nat := 9
def b : Nat := 10
def a : Nat := 11
def minus : Nat := 12
def home : Nat := 15

/-- The positions under the labels of the hardware. -/
def labelled : List (String × Nat) := [
  ("D_LEFT", dLeft), ("D_RIGHT", dRight), ("D_DOWN", dDown), ("D_UP", dUp), ("PLUS", plus),
  ("TWO", two), ("ONE", one), ("B", b), ("A", a), ("MINUS", minus), ("HOME", home)]

end WiiRemote

/-! The classic extension, and the pad of the Wii U, which shares its layout. -/
namespace WiiClassic

def r : Nat := 1
def plus : Nat := 2
def home : Nat := 3
def minus : Nat := 4
def l : Nat := 5
def dDown : Nat := 6
def dRight : Nat := 7
def dUp : Nat := 8
def dLeft : Nat := 9
def zr : Nat := 10
def x : Nat := 11
def a : Nat := 12
def y : Nat := 13
def b : Nat := 14
def zl : Nat := 15
def rj : Nat := 16
def lj : Nat := 17

/-- The positions under the labels of the hardware. -/
def labelled : List (String × Nat) := [
  ("R", r), ("PLUS", plus), ("HOME", home), ("MINUS", minus), ("L", l), ("D_DOWN", dDown),
  ("D_RIGHT", dRight), ("D_UP", dUp), ("D_LEFT", dLeft), ("ZR", zr), ("X", x), ("A", a),
  ("Y", y), ("B", b), ("ZL", zl), ("RJ", rj), ("LJ", lj)]

end WiiClassic

/-! The usages of a typical pad. -/
namespace Generic

def a : Nat := 0
def b : Nat := 1
def c : Nat := 2
def x : Nat := 3
def y : Nat := 4
def z : Nat := 5
def lb : Nat := 6
def rb : Nat := 7
def l : Nat := 8
def r : Nat := 9
def select : Nat := 10
def start : Nat := 11
def menu : Nat := 12
def lj : Nat := 13
def rj : Nat := 14

/-- The positions under the labels of the hardware. -/
def labelled : List (String × Nat) := [
  ("A", a), ("B", b), ("C", c), ("X", x), ("Y", y), ("Z", z), ("LB", lb), ("RB", rb), ("L", l),
  ("R", r), ("SELECT", select), ("START", start), ("MENU", menu), ("LJ", lj), ("RJ", rj)]

end Generic

end PadBench.Wireless.Layout
