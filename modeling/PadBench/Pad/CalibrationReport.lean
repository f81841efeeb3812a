import PadBench.Pad.Calibration

/-!
Stick calibration as a pad reports it of itself, and taking it over.

A report lists neutral, both travels and deadzone of up to four stick axes. An entry whose neutral is
zero carries nothing. The polarity and the storage range of an axis are not the report's to change.
-/
namespace PadBench

structure CalibrationReport where
  neutral : List Int32
  positiveTravel : List Int32
  negativeTravel : List Int32
  deadzone : List Int32
  deriving DecidableEq, Repr

/-- Which axis an entry of a report describes. -/
inductive CalibrationLayout where
  | direct
  | swapped
  deriving DecidableEq, Repr

namespace CalibrationLayout

/-- The axis of entry `index`; a pad held sideways lists its axes in exchanged pairs. -/
def axis? : CalibrationLayout → Nat → Option Axis
  | .direct, 0 => some .lx
  | .direct, 1 => some .ly
  | .direct, 2 => some .rx
  | .direct, 3 => some .ry
  | .swapped, 0 => some .ly
  | .swapped, 1 => some .lx
  | .swapped, 2 => some .ry
  | .swapped, 3 => some .rx
  | _, _ => none

end CalibrationLayout

/-- What a report says of one axis. -/
structure ReportedAxis where
  neutral : Int
  positiveTravel : Int
  negativeTravel : Int
  deadzone : Int
  deriving DecidableEq, Repr

namespace ReportedAxis

/-- The reported numbers with the polarity and the range of the axis' default. -/
def adapting (reported : ReportedAxis) (default : Calibration) : Calibration :=
  { default with
    neutral := reported.neutral
    positiveTravel := reported.positiveTravel
    negativeTravel := reported.negativeTravel
    fixedDeadzone := reported.deadzone }

end ReportedAxis

namespace CalibrationReport

/-- The stick axes a report can cover. -/
def sticks : Nat := 4

/-- All four lists have one length. -/
def isAligned (report : CalibrationReport) : Bool :=
  report.positiveTravel.length == report.neutral.length &&
    report.negativeTravel.length == report.neutral.length &&
    report.deadzone.length == report.neutral.length

/-- Entry `index`, if every list has it. -/
def entry? (report : CalibrationReport) (index : Nat) : Option ReportedAxis := do
  let neutral ← report.neutral[index]?
  let positive ← report.positiveTravel[index]?
  let negative ← report.negativeTravel[index]?
  let deadzone ← report.deadzone[index]?
  some ⟨neutral.toInt, positive.toInt, negative.toInt, deadzone.toInt⟩

/-- The calibration that entry `index` puts on its axis: none if the entry is missing or empty, or the
axis is absent from the defaults. -/
def replacement? (report : CalibrationReport) (defaults : AxisSet) (layout : CalibrationLayout)
    (index : Nat) : Option (Axis × Calibration × Calibration) := do
  let axis ← layout.axis? index
  let default ← defaults.get axis
  let reported ← report.entry? index
  if reported.neutral = 0 then none else some (axis, default, reported.adapting default)

/-- The axes after the entries from `index` on, each judged against the defaults. -/
def takeOver (report : CalibrationReport) (defaults : AxisSet) (layout : CalibrationLayout) :
    List Nat → AxisSet → Except CalibrationFault AxisSet
  | [], axes => .ok axes
  | index :: rest, axes =>
    match report.replacement? defaults layout index with
    | none => takeOver report defaults layout rest axes
    | some (axis, default, calibration) =>
      match calibration.faultAround? default.neutral with
      | some fault => .error (.atEntry axis index fault)
      | none => takeOver report defaults layout rest (axes.set axis (some calibration))

/-- The defaults with every axis the report covers replaced, or the first fault. -/
def applyTo (report : CalibrationReport) (defaults : AxisSet) (layout : CalibrationLayout) :
    Except CalibrationFault AxisSet :=
  if report.isAligned then takeOver report defaults layout (List.range sticks) defaults
  else .error (.lengths report.neutral.length report.positiveTravel.length
    report.negativeTravel.length report.deadzone.length)

end CalibrationReport

end PadBench
