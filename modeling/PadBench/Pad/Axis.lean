import PadBench.Pad.Button

/-!
The six analog axes of a pad, and values kept per axis.
-/
namespace PadBench

/-- The horizontal and vertical axis of the left and of the right stick, then the two triggers. -/
inductive Axis where
  | lx | ly | rx | ry | lm | rm
  deriving DecidableEq, Repr

namespace Axis

/-- Every axis, in the order reports and records list them. -/
def all : List Axis := [.lx, .ly, .rx, .ry, .lm, .rm]

def index : Axis → Nat
  | .lx => 0 | .ly => 1 | .rx => 2 | .ry => 3 | .lm => 4 | .rm => 5

def name : Axis → String
  | .lx => "LX" | .ly => "LY" | .rx => "RX" | .ry => "RY" | .lm => "LM" | .rm => "RM"

def ofIndex? (index : Nat) : Option Axis := all[index]?

/-- The position that moves the axis its positive way. -/
def positiveButton : Axis → PadButton
  | .lx => .lxRight | .ly => .lyUp | .rx => .rxRight | .ry => .ryUp | .lm => .lm | .rm => .rm

/-- The factor between a raw displacement and a generic value. -/
def sign (axis : Axis) (inverted : Bool) : Int := axis.positiveButton.sign inverted

/-- A trigger travels one way only. -/
def isTrigger : Axis → Bool
  | .lm | .rm => true
  | _ => false

theorem mem_all (axis : Axis) : axis ∈ all := by cases axis <;> decide

theorem sign_eq (axis : Axis) (inverted : Bool) :
    axis.sign inverted = if inverted then -1 else 1 := by
  cases axis <;> rfl

end Axis

/-- One value for each axis. -/
structure PerAxis (α : Type) where
  lx : α
  ly : α
  rx : α
  ry : α
  lm : α
  rm : α
  deriving DecidableEq, Repr

namespace PerAxis

def get {α : Type} (values : PerAxis α) : Axis → α
  | .lx => values.lx
  | .ly => values.ly
  | .rx => values.rx
  | .ry => values.ry
  | .lm => values.lm
  | .rm => values.rm

def ofFn {α : Type} (value : Axis → α) : PerAxis α :=
  ⟨value .lx, value .ly, value .rx, value .ry, value .lm, value .rm⟩

def const {α : Type} (value : α) : PerAxis α := ofFn fun _ => value

def set {α : Type} (values : PerAxis α) (axis : Axis) (value : α) : PerAxis α :=
  match axis with
  | .lx => { values with lx := value }
  | .ly => { values with ly := value }
  | .rx => { values with rx := value }
  | .ry => { values with ry := value }
  | .lm => { values with lm := value }
  | .rm => { values with rm := value }

def map {α β : Type} (f : α → β) (values : PerAxis α) : PerAxis β := ofFn fun axis => f (values.get axis)

def toList {α : Type} (values : PerAxis α) : List α := Axis.all.map values.get

/-- The present values with their axes, in canonical order. -/
def present {α : Type} (values : PerAxis (Option α)) : List (Axis × α) :=
  Axis.all.filterMap fun axis => (values.get axis).map (axis, ·)

@[simp] theorem get_ofFn {α : Type} (value : Axis → α) (axis : Axis) :
    (ofFn value).get axis = value axis := by
  cases axis <;> rfl

@[simp] theorem get_const {α : Type} (value : α) (axis : Axis) : (const value).get axis = value :=
  get_ofFn _ _

@[simp] theorem get_map {α β : Type} (f : α → β) (values : PerAxis α) (axis : Axis) :
    (values.map f).get axis = f (values.get axis) :=
  get_ofFn _ _

theorem get_set {α : Type} (values : PerAxis α) (axis other : Axis) (value : α) :
    (values.set axis value).get other = if other = axis then value else values.get other := by
  cases axis <;> cases other <;> rfl

theorem ext_get {α : Type} {a b : PerAxis α} (h : ∀ axis, a.get axis = b.get axis) : a = b := by
  cases a; cases b
  have hlx := h .lx; have hly := h .ly; have hrx := h .rx
  have hry := h .ry; have hlm := h .lm; have hrm := h .rm
  simp only [get] at hlx hly hrx hry hlm hrm
  subst hlx hly hrx hry hlm hrm
  rfl

end PerAxis

end PadBench
