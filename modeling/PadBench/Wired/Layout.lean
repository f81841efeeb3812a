/-!
Where each button sits in the wire word of a console, one namespace for each console.
-/
namespace PadBench.Wired.Layout

/-! A GameCube port. -/
namespace GameCube

def a : Nat := 0
def b : Nat := 1
def x : Nat := 2
def y : Nat := 3
def start : Nat := 4
def ldLeft : Nat := 8
def ldRight : Nat := 9
def ldDown : Nat := 10
def ldUp : Nat := 11
def z : Nat := 12
def r : Nat := 13
def l : Nat := 14

/-- The positions under the labels of the hardware. -/
def labelled : List (String × Nat) := [
  ("A", a), ("B", b), ("X", x), ("Y", y), ("START", start), ("LD_LEFT", ldLeft),
  ("LD_RIGHT", ldRight), ("LD_DOWN", ldDown), ("LD_UP", ldUp), ("Z", z), ("R", r), ("L", l)]

end GameCube

/-! A Nintendo 64 port. -/
namespace Nintendo64

def ldRight : Nat := 0
def ldLeft : Nat := 1
def ldDown : Nat := 2
def ldUp : Nat := 3
def start : Nat := 4
def z : Nat := 5
def b : Nat := 6
def a : Nat := 7
def cRight : Nat := 8
def cLeft : Nat := 9
def cDown : Nat := 10
def cUp : Nat := 11
def r : Nat := 12
def l : Nat := 13

/-- The positions under the labels of the hardware. -/
def labelled : List (String × Nat) := [
  ("LD_RIGHT", ldRight), ("LD_LEFT", ldLeft), ("LD_DOWN", ldDown), ("LD_UP", ldUp),
  ("START", start), ("Z", z), ("B", b), ("A", a), ("C_RIGHT", cRight), ("C_LEFT", cLeft),
  ("C_DOWN", cDown), ("C_UP", cUp), ("R", r), ("L", l)]

end Nintendo64

/-! A Saturn port. -/
namespace Saturn

def b : Nat := 0
def c : Nat := 1
def a : Nat := 2
def start : Nat := 3
def ldUp : Nat := 4
def ldDown : Nat := 5
def ldLeft : Nat := 6
def ldRight : Nat := 7
def l : Nat := 11
def z : Nat := 12
def y : Nat := 13
def x : Nat := 14
def r : Nat := 15

/-- The positions under the labels of the hardware. -/
def labelled : List (String × Nat) := [
  ("B", b), ("C", c), ("A", a), ("START", start), ("LD_UP", ldUp), ("LD_DOWN", ldDown),
  ("LD_LEFT", ldLeft), ("LD_RIGHT", ldRight), ("L", l), ("Z", z), ("Y", y), ("X", x), ("R", r)]

end Saturn

end PadBench.Wired.Layout
