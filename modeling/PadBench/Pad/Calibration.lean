import PadBench.Arith.Signed32
import PadBench.Pad.Axis

/-!
The calibration of an axis: where it rests, how far it travels, and when that is sound.
-/
namespace PadBench

/-- The values a console can store for an axis, before it adds the axis' neutral. -/
structure StorageRange where
  least : Int
  greatest : Int
  deriving DecidableEq, Repr

namespace StorageRange

def clamp (range : StorageRange) (value : Int) : Int :=
  if value < range.least then range.least
  else if range.greatest < value then range.greatest
  else value

end StorageRange

/-- One axis of one pad or console, in raw units. The two travels are those of the positive and the
negative generic values; `inverted` tells that raw values run the other way. -/
structure Calibration where
  neutral : Int
  positiveTravel : Int
  negativeTravel : Int
  fixedDeadzone : Int
  inverted : Bool
  range : Option StorageRange
  deriving DecidableEq, Repr

/-- Why a calibration is refused. -/
inductive CalibrationFault where
  | positiveTravel (found : Int)
  | negativeTravel (found : Int)
  | deadzone (found travel : Int)
  | storage (negative positive : Int) (range : StorageRange)
  | neutral (found low high center : Int)
  | onAxis (axis : Axis) (cause : CalibrationFault)
  | atEntry (axis : Axis) (index : Nat) (cause : CalibrationFault)
  | lengths (neutral positive negative deadzone : Nat)
  deriving DecidableEq, Repr

namespace CalibrationFault

def label : String := "Calibration error: "

def message : CalibrationFault → String
  | .positiveTravel found => s!"abs_max must be positive, got {found}"
  | .negativeTravel found => s!"abs_min cannot be negative, got {found}"
  | .deadzone found travel => s!"deadzone {found} must be in [0, {travel})"
  | .storage negative positive range =>
    s!"extents -{negative}..+{positive} exceed storage range {range.least}..={range.greatest}"
  | .neutral found low high center => s!"neutral {found} outside {low}..={high} around center {center}"
  | .onAxis axis cause => axis.name ++ ": " ++ label ++ cause.message
  | .atEntry axis index cause =>
    axis.name ++ s!" from report entry {index}: " ++ label ++ cause.message
  | .lengths neutrals positives negatives deadzones =>
    s!"calibration fields have mismatched lengths [{neutrals}, {positives}, {negatives}, {deadzones}]"

end CalibrationFault

namespace Calibration

def asymmetric (neutral positive negative : Int) : Calibration :=
  ⟨neutral, positive, negative, 0, false, none⟩

def symmetric (neutral travel : Int) : Calibration := asymmetric neutral travel travel

def flipped (calibration : Calibration) : Calibration := { calibration with inverted := true }

def withDeadzone (calibration : Calibration) (deadzone : Int) : Calibration :=
  { calibration with fixedDeadzone := deadzone }

def withRange (calibration : Calibration) (least greatest : Int) : Calibration :=
  { calibration with range := some ⟨least, greatest⟩ }

/-- The travel on the side of a generic value; zero belongs to the positive side. -/
def travel (calibration : Calibration) (generic : Int) : Int :=
  if 0 ≤ generic then calibration.positiveTravel else calibration.negativeTravel

/-- Both travels lie within a storage range. -/
def fits (calibration : Calibration) (range : StorageRange) : Bool :=
  decide (calibration.positiveTravel ≤ range.greatest ∧ range.least ≤ -calibration.negativeTravel)

/-- The first rule the calibration breaks, if any. -/
def fault? (calibration : Calibration) : Option CalibrationFault :=
  if calibration.positiveTravel ≤ 0 then some (.positiveTravel calibration.positiveTravel)
  else if calibration.negativeTravel < 0 then some (.negativeTravel calibration.negativeTravel)
  else if calibration.fixedDeadzone < 0 ∨ calibration.positiveTravel ≤ calibration.fixedDeadzone then
    some (.deadzone calibration.fixedDeadzone calibration.positiveTravel)
  else match calibration.range with
    | none => none
    | some range =>
      if calibration.fits range then none
      else some (.storage calibration.negativeTravel calibration.positiveTravel range)

/-- One negative travel below a nominal `center`. -/
def lowest (calibration : Calibration) (center : Int) : Int :=
  Signed32.wrap (center - calibration.negativeTravel)

/-- One positive travel above it. -/
def highest (calibration : Calibration) (center : Int) : Int :=
  Signed32.wrap (center + calibration.positiveTravel)

/-- The neutral lies within one travel of a nominal `center`. -/
def isCentered (calibration : Calibration) (center : Int) : Bool :=
  decide (calibration.lowest center ≤ calibration.neutral ∧ calibration.neutral ≤ calibration.highest center)

/-- `fault?`, and then the bound on the neutral of a physical unit. -/
def faultAround? (calibration : Calibration) (center : Int) : Option CalibrationFault :=
  match calibration.fault? with
  | some fault => some fault
  | none =>
    if calibration.isCentered center then none
    else some (.neutral calibration.neutral (calibration.lowest center) (calibration.highest center) center)

end Calibration

/-- The calibrations of a pad or console, one for each axis it has. -/
abbrev AxisSet := PerAxis (Option Calibration)

namespace AxisSet

def empty : AxisSet := PerAxis.const none

def ofList (entries : List (Axis × Calibration)) : AxisSet :=
  entries.foldl (fun axes (axis, calibration) => axes.set axis (some calibration)) empty

/-- The first fault of an axis in canonical order. -/
def fault? (axes : AxisSet) : Option CalibrationFault :=
  axes.present.findSome? fun (axis, calibration) => calibration.fault?.map (.onAxis axis)

end AxisSet

end PadBench
