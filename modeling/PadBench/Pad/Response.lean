import PadBench.Arith.BinaryFloat
import PadBench.Pad.Calibration

/-!
What an adapter makes of one raw axis value, stage by stage.

The raw value is taken relative to its neutral and given the polarity of the axis; the deadzone is
cut off and the rest scaled to the travel of the console's axis; last the console's neutral is added.
All scaling is in single precision and cuts toward zero. Sums and differences wrap where they leave the
range of the values; what is left exact cannot leave it.

* Inside the deadzone the result is exactly 0.
* Between the deadzone and the full travel, the travel counts as 95% of itself, so that the console's
  travel is reached before the stick's: the pull-back regime.
* At the full travel and past it the full scale applies, and only a storage range bounds the result.
-/
namespace PadBench

/-- One axis at every stage. -/
structure AxisSample where
  wireless : Int
  generic : Int
  mapped : Int
  wired : Int
  deriving DecidableEq, Repr

namespace Response

/-- The share of the travel that is dead unless told otherwise. -/
def defaultFraction : BinaryFloat := .ofDecimal .single false 135 (-4)

/-- The pull-back travel, in percent of the true one. -/
def pullBackPercent : Int := 95

/-- The share of a travel that is dead, cut to a whole number. -/
def share (travel : Int) (fraction : BinaryFloat) : Int :=
  (fraction.mul .single (.ofInt .single travel)).truncate

/-- The deadzone in raw units: a share of the travel, and a fixed part. -/
def deadzone (travel fixed : Int) (fraction : BinaryFloat) : Int :=
  Signed32.wrap (share travel fraction + fixed)

/-- A linear regime: what is past the deadzone, times a factor. -/
structure Regime where
  deadzone : Int
  factor : BinaryFloat
  deriving DecidableEq, Repr

namespace Regime

/-- The regime that carries `travel` onto `target`. -/
def onto (deadzone travel target : Int) : Regime :=
  ⟨deadzone, .div .single (.ofInt .single target) (.ofInt .single (Signed32.wrap (travel - deadzone)))⟩

def apply (regime : Regime) (magnitude : Int) : Int :=
  (BinaryFloat.mul .single (.ofInt .single (Signed32.wrap (magnitude - regime.deadzone)))
    regime.factor).truncate

end Regime

def pullBackTravel (travel : Int) : Int := (Signed32.wrap (travel * pullBackPercent)).tdiv 100

/-- The regime short of the full travel, unless its shorter travel is all deadzone. -/
def pullBack? (travel target fixed : Int) (fraction : BinaryFloat) : Option Regime :=
  let shorter := pullBackTravel travel
  let dead := deadzone shorter fixed fraction
  if shorter ≤ dead then none else some (.onto dead shorter target)

/-- The regime for a magnitude past the deadzone. -/
def regime (magnitude travel target fixed : Int) (fraction : BinaryFloat) : Regime :=
  let full := Regime.onto (deadzone travel fixed fraction) travel target
  if travel ≤ magnitude then full
  else (pullBack? travel target fixed fraction).getD full

/-- The displacement from neutral, with the polarity of the axis. -/
def generic (axis : Axis) (source : Calibration) (raw : Int) : Int :=
  Signed32.saturate (axis.sign source.inverted * Signed32.saturate (raw - source.neutral))

/-- The distance from neutral. -/
def magnitude (genericValue : Int) : Int := Signed32.saturate genericValue.natAbs

/-- Whether a generic value moves nothing: it is within its deadzone, or its side is all deadzone. -/
def isDead (source : Calibration) (fraction : BinaryFloat) (genericValue : Int) : Bool :=
  let travel := source.travel genericValue
  let dead := deadzone travel source.fixedDeadzone fraction
  decide (magnitude genericValue ≤ dead ∨ travel ≤ dead)

/-- The scaled value of a generic one, within the console's storage range. -/
def mapped (axis : Axis) (source wired : Calibration) (fraction : BinaryFloat) (genericValue : Int) :
    Int :=
  if isDead source fraction genericValue then 0
  else
    let direction := axis.sign wired.inverted * genericValue.sign
    let scale := regime (magnitude genericValue) (source.travel genericValue) (wired.travel direction)
      source.fixedDeadzone fraction
    let scaled := direction * max (scale.apply (magnitude genericValue)) 0
    match wired.range with
    | none => scaled
    | some range => range.clamp scaled

/-- The console's neutral with the scaled value added to it. -/
def wiredValue (source wired : Calibration) (fraction : BinaryFloat) (genericValue scaled : Int) : Int :=
  if isDead source fraction genericValue then wired.neutral else Signed32.wrap (scaled + wired.neutral)

def sample (axis : Axis) (source wired : Calibration) (fraction : BinaryFloat) (raw : Int) :
    AxisSample :=
  let value := generic axis source raw
  let scaled := mapped axis source wired fraction value
  ⟨raw, value, scaled, wiredValue source wired fraction value scaled⟩

end Response

/-- The raw displacements past the deadzone around the first step of the console's axis. -/
structure StepSizes where
  /-- Enough to move the console's axis by one. -/
  one : Int
  /-- Not enough. -/
  half : Int
  deriving DecidableEq, Repr

namespace StepSizes

def ofTravels (source wired : Int) : StepSizes :=
  let one := if 0 < wired then max (source.tdiv wired) 1 else 1
  ⟨one, max (one.tdiv 2) 1⟩

/-- The two displacements differ: the source has at least two raw units for one of the console. -/
def isResolvable (steps : StepSizes) : Bool := decide (steps.half < steps.one)

end StepSizes

end PadBench
