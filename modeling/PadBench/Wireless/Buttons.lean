import PadBench.Pad.ButtonTable
import PadBench.Wireless.Layout

/-!
The button tables of the wireless pads: for each canonical position, the report bits that press it.
-/
namespace PadBench.Wireless.Buttons

open Layout

def playStation : ButtonTable where
  entry
    | .rbLeft => bit PlayStation.square
    | .rbRight => bit PlayStation.circle
    | .rbDown => bit PlayStation.cross
    | .rbUp => bit PlayStation.triangle
    | .mm => bit PlayStation.options
    | .ms => bit PlayStation.share
    | .mt => bit PlayStation.home
    | .mq => bit PlayStation.touchpad
    | .ls => bit PlayStation.l1
    | .lj => bit PlayStation.l3
    | .rs => bit PlayStation.r1
    | .rj => bit PlayStation.r3
    | _ => 0

def playStation3 : ButtonTable where
  entry
    | .ldLeft => bit PlayStation3.dLeft
    | .ldRight => bit PlayStation3.dRight
    | .ldDown => bit PlayStation3.dDown
    | .ldUp => bit PlayStation3.dUp
    | .rbLeft => bit PlayStation3.square
    | .rbRight => bit PlayStation3.circle
    | .rbDown => bit PlayStation3.cross
    | .rbUp => bit PlayStation3.triangle
    | .mm => bit PlayStation3.start
    | .ms => bit PlayStation3.select
    | .mt => bit PlayStation3.home
    | .ls => bit PlayStation3.l1
    | .lj => bit PlayStation3.l3
    | .rs => bit PlayStation3.r1
    | .rj => bit PlayStation3.r3
    | _ => 0

def xbox : ButtonTable where
  entry
    | .rbLeft => bit Xbox.x
    | .rbRight => bit Xbox.b
    | .rbDown => bit Xbox.a
    | .rbUp => bit Xbox.y
    | .mm => bit Xbox.menu
    | .ms => bit Xbox.view
    | .mt => bit Xbox.guide
    | .mq => bit Xbox.share
    | .ls => bit Xbox.lb
    | .lj => bit Xbox.lj
    | .rs => bit Xbox.rb
    | .rj => bit Xbox.rj
    | _ => 0

def switchSimple : ButtonTable where
  entry
    | .rbLeft => bit SwitchSimple.y
    | .rbRight => bit SwitchSimple.a
    | .rbDown => bit SwitchSimple.b
    | .rbUp => bit SwitchSimple.x
    | .mm => bit SwitchSimple.plus
    | .ms => bit SwitchSimple.minus
    | .mt => bit SwitchSimple.home
    | .mq => bit SwitchSimple.capture
    | .lm => bit SwitchSimple.zl
    | .ls => bit SwitchSimple.l
    | .lj => bit SwitchSimple.lj
    | .rm => bit SwitchSimple.zr
    | .rs => bit SwitchSimple.r
    | .rj => bit SwitchSimple.rj
    | _ => 0

def switchFull : ButtonTable where
  entry
    | .ldLeft => bit SwitchFull.left
    | .ldRight => bit SwitchFull.right
    | .ldDown => bit SwitchFull.down
    | .ldUp => bit SwitchFull.up
    | .rbLeft => bit SwitchFull.y
    | .rbRight => bit SwitchFull.a
    | .rbDown => bit SwitchFull.b
    | .rbUp => bit SwitchFull.x
    | .mm => bit SwitchFull.plus
    | .ms => bit SwitchFull.minus
    | .mt => bit SwitchFull.home
    | .mq => bit SwitchFull.capture
    | .lm => bit SwitchFull.zl
    | .ls => bit SwitchFull.l
    | .lt => bit SwitchFull.lSl ||| bit SwitchFull.rSl
    | .lj => bit SwitchFull.lj
    | .rm => bit SwitchFull.zr
    | .rs => bit SwitchFull.r
    | .rt => bit SwitchFull.lSr ||| bit SwitchFull.rSr
    | .rj => bit SwitchFull.rj
    | _ => 0

/-- Either half held sideways. Both halves share the table, so a face position has a button of each. -/
def joyCon : ButtonTable where
  entry
    | .rbLeft => bit SwitchFull.b ||| bit SwitchFull.up
    | .rbRight => bit SwitchFull.x ||| bit SwitchFull.down
    | .rbDown => bit SwitchFull.a ||| bit SwitchFull.left
    | .rbUp => bit SwitchFull.y ||| bit SwitchFull.right
    | .mm => bit SwitchFull.capture ||| bit SwitchFull.plus
    | .ms => bit SwitchFull.minus ||| bit SwitchFull.home
    | .lm => bit SwitchFull.lSl ||| bit SwitchFull.rSl
    | .ls => bit SwitchFull.zl ||| bit SwitchFull.zr
    | .lj => bit SwitchFull.lj ||| bit SwitchFull.rj
    | .rm => bit SwitchFull.lSr ||| bit SwitchFull.rSr
    | .rs => bit SwitchFull.l ||| bit SwitchFull.r
    | _ => 0

def switchNintendo64 : ButtonTable where
  entry
    | .rxLeft => bit SwitchFull.x
    | .rxRight => bit SwitchFull.minus
    | .ryDown => bit SwitchFull.zr
    | .ryUp => bit SwitchFull.y
    | .ldLeft => bit SwitchFull.left
    | .ldRight => bit SwitchFull.right
    | .ldDown => bit SwitchFull.down
    | .ldUp => bit SwitchFull.up
    | .rbLeft => bit SwitchFull.b
    | .rbDown => bit SwitchFull.a
    | .mm => bit SwitchFull.plus
    | .mt => bit SwitchFull.home
    | .mq => bit SwitchFull.capture
    | .lm => bit SwitchFull.zl
    | .ls => bit SwitchFull.l
    | .rm => bit SwitchFull.lj
    | .rs => bit SwitchFull.r
    | _ => 0

def switchSuperNes : ButtonTable where
  entry
    | .ldLeft => bit SwitchFull.left
    | .ldRight => bit SwitchFull.right
    | .ldDown => bit SwitchFull.down
    | .ldUp => bit SwitchFull.up
    | .rbLeft => bit SwitchFull.y
    | .rbRight => bit SwitchFull.a
    | .rbDown => bit SwitchFull.b
    | .rbUp => bit SwitchFull.x
    | .mm => bit SwitchFull.plus
    | .ms => bit SwitchFull.minus
    | .lm => bit SwitchFull.l
    | .ls => bit SwitchFull.zl
    | .rm => bit SwitchFull.r
    | .rs => bit SwitchFull.zr
    | _ => 0

def switchNes : ButtonTable where
  entry
    | .ldLeft => bit SwitchFull.left
    | .ldRight => bit SwitchFull.right
    | .ldDown => bit SwitchFull.down
    | .ldUp => bit SwitchFull.up
    | .rbLeft => bit SwitchFull.b
    | .rbDown => bit SwitchFull.a
    | .mm => bit SwitchFull.plus
    | .ms => bit SwitchFull.minus
    | .lm => bit SwitchFull.l
    | .rm => bit SwitchFull.r
    | _ => 0

def switchGenesis : ButtonTable where
  entry
    | .ldLeft => bit SwitchFull.left
    | .ldRight => bit SwitchFull.right
    | .ldDown => bit SwitchFull.down
    | .ldUp => bit SwitchFull.up
    | .rbLeft => bit SwitchFull.a
    | .rbRight => bit SwitchFull.r
    | .rbDown => bit SwitchFull.b
    | .rbUp => bit SwitchFull.y
    | .mm => bit SwitchFull.plus
    | .ms => bit SwitchFull.zr
    | .mt => bit SwitchFull.home
    | .mq => bit SwitchFull.capture
    | .ls => bit SwitchFull.x
    | .rs => bit SwitchFull.l
    | _ => 0

def switchPowerA : ButtonTable where
  entry
    | .ldLeft => bit SwitchFull.left
    | .ldRight => bit SwitchFull.right
    | .ldDown => bit SwitchFull.down
    | .ldUp => bit SwitchFull.up
    | .rbLeft => bit SwitchFull.b
    | .rbRight => bit SwitchFull.x
    | .rbDown => bit SwitchFull.a
    | .rbUp => bit SwitchFull.y
    | .mm => bit SwitchFull.plus
    | .ms => bit SwitchFull.minus
    | .mt => bit SwitchFull.home
    | .mq => bit SwitchFull.capture
    | .lm => bit SwitchFull.zl
    | .ls => bit SwitchFull.l
    | .lj => bit SwitchFull.lj
    | .rm => bit SwitchFull.zr
    | .rs => bit SwitchFull.r
    | .rj => bit SwitchFull.rj
    | _ => 0

/-- Over its simple report. -/
def brawler64 : ButtonTable where
  entry
    | .rxLeft => bit SwitchSimple.x
    | .rxRight => bit SwitchSimple.lj
    | .ryDown => bit SwitchSimple.y
    | .ryUp => bit SwitchSimple.rj
    | .rbLeft => bit SwitchSimple.a
    | .rbDown => bit SwitchSimple.b
    | .mm => bit SwitchSimple.plus
    | .ms => bit SwitchSimple.minus
    | .mt => bit SwitchSimple.home
    | .mq => bit SwitchSimple.capture
    | .lm => bit SwitchSimple.zl
    | .ls => bit SwitchSimple.l
    | .rm => bit SwitchSimple.zr
    | .rs => bit SwitchSimple.r
    | _ => 0

/-- Over its simple report. -/
def admiral : ButtonTable where
  entry
    | .rxLeft => bit SwitchSimple.minus
    | .rxRight => bit SwitchSimple.rj
    | .ryDown => bit SwitchSimple.capture
    | .ryUp => bit SwitchSimple.home
    | .rbLeft => bit SwitchSimple.b
    | .rbDown => bit SwitchSimple.a
    | .mm => bit SwitchSimple.plus
    | .lm => bit SwitchSimple.sl
    | .ls => bit SwitchSimple.l
    | .rs => bit SwitchSimple.r
    | _ => 0

def wiiRemote : ButtonTable where
  entry
    | .ldLeft => bit WiiRemote.dUp
    | .ldRight => bit WiiRemote.dDown
    | .ldDown => bit WiiRemote.dLeft
    | .ldUp => bit WiiRemote.dRight
    | .rbLeft => bit WiiRemote.one
    | .rbRight => bit WiiRemote.b
    | .rbDown => bit WiiRemote.two
    | .rbUp => bit WiiRemote.a
    | .mm => bit WiiRemote.plus
    | .ms => bit WiiRemote.minus
    | .mt => bit WiiRemote.home
    | _ => 0

def wiiClassic : ButtonTable where
  entry
    | .ldLeft => bit WiiClassic.dLeft
    | .ldRight => bit WiiClassic.dRight
    | .ldDown => bit WiiClassic.dDown
    | .ldUp => bit WiiClassic.dUp
    | .rbLeft => bit WiiClassic.y
    | .rbRight => bit WiiClassic.a
    | .rbDown => bit WiiClassic.b
    | .rbUp => bit WiiClassic.x
    | .mm => bit WiiClassic.plus
    | .ms => bit WiiClassic.minus
    | .mt => bit WiiClassic.home
    | .ls => bit WiiClassic.zl
    | .lt => bit WiiClassic.l
    | .rs => bit WiiClassic.zr
    | .rt => bit WiiClassic.r
    | _ => 0

def wiiClassicPro : ButtonTable where
  entry
    | .ldLeft => bit WiiClassic.dLeft
    | .ldRight => bit WiiClassic.dRight
    | .ldDown => bit WiiClassic.dDown
    | .ldUp => bit WiiClassic.dUp
    | .rbLeft => bit WiiClassic.y
    | .rbRight => bit WiiClassic.a
    | .rbDown => bit WiiClassic.b
    | .rbUp => bit WiiClassic.x
    | .mm => bit WiiClassic.plus
    | .ms => bit WiiClassic.minus
    | .mt => bit WiiClassic.home
    | .lm => bit WiiClassic.zl
    | .ls => bit WiiClassic.l
    | .rm => bit WiiClassic.zr
    | .rs => bit WiiClassic.r
    | _ => 0

def wiiUPro : ButtonTable where
  entry
    | .ldLeft => bit WiiClassic.dLeft
    | .ldRight => bit WiiClassic.dRight
    | .ldDown => bit WiiClassic.dDown
    | .ldUp => bit WiiClassic.dUp
    | .rbLeft => bit WiiClassic.y
    | .rbRight => bit WiiClassic.a
    | .rbDown => bit WiiClassic.b
    | .rbUp => bit WiiClassic.x
    | .mm => bit WiiClassic.plus
    | .ms => bit WiiClassic.minus
    | .mt => bit WiiClassic.home
    | .lm => bit WiiClassic.zl
    | .ls => bit WiiClassic.l
    | .lj => bit WiiClassic.lj
    | .rm => bit WiiClassic.zr
    | .rs => bit WiiClassic.r
    | .rj => bit WiiClassic.rj
    | _ => 0

/-- Up to twenty buttons: the usages past the named ones, 15 to 19, take the positions left over. -/
def generic : ButtonTable where
  entry
    | .rdLeft => bit 15
    | .rdRight => bit Generic.z
    | .rdDown => bit 16
    | .rdUp => bit Generic.c
    | .rbLeft => bit Generic.x
    | .rbRight => bit Generic.b
    | .rbDown => bit Generic.a
    | .rbUp => bit Generic.y
    | .mm => bit Generic.start
    | .ms => bit Generic.select
    | .mt => bit Generic.menu
    | .mq => bit 17
    | .lm => bit Generic.l
    | .ls => bit Generic.lb
    | .lt => bit 18
    | .lj => bit Generic.lj
    | .rm => bit Generic.r
    | .rs => bit Generic.rb
    | .rt => bit 19
    | .rj => bit Generic.rj
    | _ => 0

end PadBench.Wireless.Buttons
