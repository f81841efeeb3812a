import PadBench.Record.Basic

/-!
What has been observed of an adapter's answer: the last record of each stage, of the device and of the
calibration, and everything else in order.
-/
namespace PadBench

structure Observation where
  wireless : Option StageRecord
  generic : Option StageRecord
  mapped : Option StageRecord
  wired : Option StageRecord
  device : Option DeviceInfo
  calibration : Option CalibrationReport
  other : List Record
  deriving DecidableEq, Repr

namespace Observation

def empty : Observation := ⟨none, none, none, none, none, none, []⟩

def stage (seen : Observation) : Stage → Option StageRecord
  | .wireless => seen.wireless
  | .generic => seen.generic
  | .mapped => seen.mapped
  | .wired => seen.wired

/-- One more record, which takes the place of an earlier one of its slot. -/
def push (seen : Observation) : Record → Observation
  | .stage .wireless body => { seen with wireless := some body }
  | .stage .generic body => { seen with generic := some body }
  | .stage .mapped body => { seen with mapped := some body }
  | .stage .wired body => { seen with wired := some body }
  | .deviceName info | .typeUpdate info => { seen with device := some info }
  | .calibration report => { seen with calibration := some report }
  | record => { seen with other := seen.other ++ [record] }

def pushAll (seen : Observation) (records : List Record) : Observation := records.foldl push seen

def ofRecords (records : List Record) : Observation := empty.pushAll records

/-- Every stage has been seen. -/
def isComplete (seen : Observation) : Bool := Stage.all.all fun stage => (seen.stage stage).isSome

def isEmpty (seen : Observation) : Bool := seen == empty

end Observation

end PadBench
