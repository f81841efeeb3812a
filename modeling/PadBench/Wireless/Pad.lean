import PadBench.Pad.CalibrationReport
import PadBench.Pad.Hat
import PadBench.Wireless.Axes
import PadBench.Wireless.Buttons

/-!
The wireless pads an adapter can listen to, and how an adapter identifies them.
-/
namespace PadBench

/-- What is known of a pad in one report mode. `calibration` is there for pads that report their own
calibration. -/
structure SourceProfile where
  name : String
  buttons : ButtonTable
  axes : AxisSet
  hat : Option Hat.Encoding
  calibration : Option CalibrationLayout

/-- The families an adapter tells apart, in the order of their numbers. -/
inductive DeviceType where
  | hidGeneric | ps3 | wii | xbox | ps | switch
  deriving DecidableEq, Repr

namespace DeviceType

def all : List DeviceType := [.hidGeneric, .ps3, .wii, .xbox, .ps, .switch]

def id : DeviceType → Nat
  | .hidGeneric => 0 | .ps3 => 1 | .wii => 2 | .xbox => 3 | .ps => 4 | .switch => 5

def name : DeviceType → String
  | .hidGeneric => "HidGeneric" | .ps3 => "Ps3" | .wii => "Wii" | .xbox => "Xbox" | .ps => "Ps"
  | .switch => "Switch"

def ofId? : Int → Option DeviceType
  | .ofNat id => all[id]?
  | .negSucc _ => none

end DeviceType

/-- The variants of the families, in the order of their numbers. -/
inductive DeviceSubtype where
  | default | wiiNunchuck | wiiClassic | wiiClassic8bit | wiiClassicPro | wiiClassicPro8bit | wiiuPro
  | ps5Ds | xboxXinput | xboxXs | xboxAdaptive | swLeftJoycon | swRightJoycon | swNes | swSnes | swN64
  | swMdGen | swPowerA | swHyperkinAdmiral | gbros
  deriving DecidableEq, Repr

namespace DeviceSubtype

def all : List DeviceSubtype := [
  .default, .wiiNunchuck, .wiiClassic, .wiiClassic8bit, .wiiClassicPro, .wiiClassicPro8bit, .wiiuPro,
  .ps5Ds, .xboxXinput, .xboxXs, .xboxAdaptive, .swLeftJoycon, .swRightJoycon, .swNes, .swSnes, .swN64,
  .swMdGen, .swPowerA, .swHyperkinAdmiral, .gbros]

def name : DeviceSubtype → String
  | .default => "Default"
  | .wiiNunchuck => "WiiNunchuck"
  | .wiiClassic => "WiiClassic"
  | .wiiClassic8bit => "WiiClassic8bit"
  | .wiiClassicPro => "WiiClassicPro"
  | .wiiClassicPro8bit => "WiiClassicPro8bit"
  | .wiiuPro => "WiiuPro"
  | .ps5Ds => "Ps5Ds"
  | .xboxXinput => "XboxXinput"
  | .xboxXs => "XboxXs"
  | .xboxAdaptive => "XboxAdaptive"
  | .swLeftJoycon => "SwLeftJoycon"
  | .swRightJoycon => "SwRightJoycon"
  | .swNes => "SwNes"
  | .swSnes => "SwSnes"
  | .swN64 => "SwN64"
  | .swMdGen => "SwMdGen"
  | .swPowerA => "SwPowerA"
  | .swHyperkinAdmiral => "SwHyperkinAdmiral"
  | .gbros => "Gbros"

def id (subtype : DeviceSubtype) : Nat := all.idxOf subtype

def ofId? : Int → Option DeviceSubtype
  | .ofNat id => all[id]?
  | .negSucc _ => none

end DeviceSubtype

/-- The report a pad is driven in: the simple one it starts with, or the full one an adapter switches
it to. -/
inductive ReportMode where
  | simple
  | full
  deriving DecidableEq, Repr

structure DeviceIdentity where
  type : DeviceType
  subtype : DeviceSubtype
  mode : ReportMode
  deriving DecidableEq, Repr

/-- A wireless pad in one report mode. -/
inductive WirelessPad where
  | ps4 | ps5 | ps3 | xbox
  | switchSimple | switchPro | leftJoyCon | rightJoyCon | switchNintendo64 | switchSuperNes | switchNes
  | switchGenesis | switchPowerA | admiral | brawler64
  | wiiRemote | wiiClassic | wiiClassicByte | wiiClassicPro | wiiClassicProByte | wiiUPro
  | generic
  deriving DecidableEq, Repr

namespace WirelessPad

def all : List WirelessPad := [
  .ps4, .ps5, .ps3, .xbox, .switchSimple, .switchPro, .leftJoyCon, .rightJoyCon, .switchNintendo64,
  .switchSuperNes, .switchNes, .switchGenesis, .switchPowerA, .admiral, .brawler64, .wiiRemote,
  .wiiClassic, .wiiClassicByte, .wiiClassicPro, .wiiClassicProByte, .wiiUPro, .generic]

/-- The name settings use. -/
def name : WirelessPad → String
  | .ps4 => "ps4"
  | .ps5 => "ps5"
  | .ps3 => "ps3"
  | .xbox => "xbox"
  | .switchSimple => "sw_default"
  | .switchPro => "sw_pro"
  | .leftJoyCon => "sw_left_joycon"
  | .rightJoyCon => "sw_right_joycon"
  | .switchNintendo64 => "sw_n64"
  | .switchSuperNes => "sw_snes"
  | .switchNes => "sw_nes"
  | .switchGenesis => "sw_genesis"
  | .switchPowerA => "sw_powera"
  | .admiral => "sw_admiral"
  | .brawler64 => "sw_brawler64"
  | .wiiRemote => "wiimote"
  | .wiiClassic => "wii_classic"
  | .wiiClassicByte => "wii_classic_8bit"
  | .wiiClassicPro => "wii_classic_pro"
  | .wiiClassicProByte => "wii_classic_pro_8bit"
  | .wiiUPro => "wiiu_pro"
  | .generic => "hid"

/-- What an adapter takes the pad for. -/
def identity : WirelessPad → DeviceIdentity
  | .ps4 => ⟨.ps, .default, .simple⟩
  | .ps5 => ⟨.ps, .ps5Ds, .simple⟩
  | .ps3 => ⟨.ps3, .default, .simple⟩
  | .xbox => ⟨.xbox, .default, .simple⟩
  | .switchSimple => ⟨.switch, .default, .simple⟩
  | .switchPro => ⟨.switch, .default, .full⟩
  | .leftJoyCon => ⟨.switch, .swLeftJoycon, .full⟩
  | .rightJoyCon => ⟨.switch, .swRightJoycon, .full⟩
  | .switchNintendo64 => ⟨.switch, .swN64, .full⟩
  | .switchSuperNes => ⟨.switch, .swSnes, .full⟩
  | .switchNes => ⟨.switch, .swNes, .full⟩
  | .switchGenesis => ⟨.switch, .swMdGen, .full⟩
  | .switchPowerA => ⟨.switch, .swPowerA, .full⟩
  | .admiral => ⟨.switch, .swHyperkinAdmiral, .simple⟩
  | .brawler64 => ⟨.switch, .swN64, .simple⟩
  | .wiiRemote => ⟨.wii, .default, .simple⟩
  | .wiiClassic => ⟨.wii, .wiiClassic, .simple⟩
  | .wiiClassicByte => ⟨.wii, .wiiClassic8bit, .simple⟩
  | .wiiClassicPro => ⟨.wii, .wiiClassicPro, .simple⟩
  | .wiiClassicProByte => ⟨.wii, .wiiClassicPro8bit, .simple⟩
  | .wiiUPro => ⟨.wii, .wiiuPro, .simple⟩
  | .generic => ⟨.hidGeneric, .default, .simple⟩

def buttons : WirelessPad → ButtonTable
  | .ps4 | .ps5 => Wireless.Buttons.playStation
  | .ps3 => Wireless.Buttons.playStation3
  | .xbox => Wireless.Buttons.xbox
  | .switchSimple => Wireless.Buttons.switchSimple
  | .switchPro => Wireless.Buttons.switchFull
  | .leftJoyCon | .rightJoyCon => Wireless.Buttons.joyCon
  | .switchNintendo64 => Wireless.Buttons.switchNintendo64
  | .switchSuperNes => Wireless.Buttons.switchSuperNes
  | .switchNes => Wireless.Buttons.switchNes
  | .switchGenesis => Wireless.Buttons.switchGenesis
  | .switchPowerA => Wireless.Buttons.switchPowerA
  | .admiral => Wireless.Buttons.admiral
  | .brawler64 => Wireless.Buttons.brawler64
  | .wiiRemote => Wireless.Buttons.wiiRemote
  | .wiiClassic | .wiiClassicByte => Wireless.Buttons.wiiClassic
  | .wiiClassicPro | .wiiClassicProByte => Wireless.Buttons.wiiClassicPro
  | .wiiUPro => Wireless.Buttons.wiiUPro
  | .generic => Wireless.Buttons.generic

def axes : WirelessPad → AxisSet
  | .ps4 | .ps5 | .ps3 => Wireless.Axes.playStation
  | .xbox => Wireless.Axes.xbox
  | .switchSimple => Wireless.Axes.switchSimple
  | .switchPro | .switchPowerA => Wireless.Axes.switchFull
  | .leftJoyCon => Wireless.Axes.leftJoyCon
  | .rightJoyCon => Wireless.Axes.rightJoyCon
  | .switchNintendo64 => Wireless.Axes.switchNintendo64
  | .switchSuperNes | .switchNes | .switchGenesis | .wiiRemote => .empty
  | .admiral | .brawler64 => Wireless.Axes.switchThirdParty
  | .wiiClassic | .wiiClassicPro => Wireless.Axes.wiiClassic
  | .wiiClassicByte | .wiiClassicProByte => Wireless.Axes.wiiClassicByte
  | .wiiUPro => Wireless.Axes.wiiUPro
  | .generic => Wireless.Axes.generic

def hat : WirelessPad → Option Hat.Encoding
  | .ps4 | .ps5 | .switchSimple | .admiral | .brawler64 => some .zeroBased
  | .xbox | .generic => some .oneBased
  | _ => none

def calibration : WirelessPad → Option CalibrationLayout
  | .switchPro | .rightJoyCon | .switchNintendo64 | .switchPowerA => some .direct
  | .leftJoyCon => some .swapped
  | _ => none

def profile (pad : WirelessPad) : SourceProfile :=
  ⟨pad.name, pad.buttons, pad.axes, pad.hat, pad.calibration⟩

def ofName? (name : String) : Option WirelessPad := all.find? fun pad => pad.name == name

def ofIdentity? (identity : DeviceIdentity) : Option WirelessPad :=
  all.find? fun pad => pad.identity == identity

/-- The pad of an identity. A variant without tables counts as the plain member of its family, in the
same mode. -/
def resolve? (identity : DeviceIdentity) : Option WirelessPad :=
  (ofIdentity? identity).or (ofIdentity? { identity with subtype := .default })

end WirelessPad

end PadBench
