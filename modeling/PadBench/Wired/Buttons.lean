import PadBench.Pad.ButtonTable
import PadBench.Wired.Layout

/-!
The button tables of the consoles: for each canonical position, the wire bits it drives.
-/
namespace PadBench.Wired.Buttons

open Layout

/-- Both shoulder buttons drive Z. -/
def gameCube : ButtonTable where
  entry
    | .ldLeft => bit GameCube.ldLeft
    | .ldRight => bit GameCube.ldRight
    | .ldDown => bit GameCube.ldDown
    | .ldUp => bit GameCube.ldUp
    | .rbLeft => bit GameCube.b
    | .rbRight => bit GameCube.x
    | .rbDown => bit GameCube.a
    | .rbUp => bit GameCube.y
    | .mm => bit GameCube.start
    | .ls => bit GameCube.z
    | .lt => bit GameCube.l
    | .rs => bit GameCube.z
    | .rt => bit GameCube.r
    | _ => 0

/-- The right stick and the face cluster both drive the C buttons. -/
def nintendo64 : ButtonTable where
  entry
    | .rxLeft => bit Nintendo64.cLeft
    | .rxRight => bit Nintendo64.cRight
    | .ryDown => bit Nintendo64.cDown
    | .ryUp => bit Nintendo64.cUp
    | .ldLeft => bit Nintendo64.ldLeft
    | .ldRight => bit Nintendo64.ldRight
    | .ldDown => bit Nintendo64.ldDown
    | .ldUp => bit Nintendo64.ldUp
    | .rdRight => bit Nintendo64.cRight
    | .rdUp => bit Nintendo64.cUp
    | .rbLeft => bit Nintendo64.b
    | .rbRight => bit Nintendo64.cDown
    | .rbDown => bit Nintendo64.a
    | .rbUp => bit Nintendo64.cLeft
    | .mm => bit Nintendo64.start
    | .lm => bit Nintendo64.z
    | .ls => bit Nintendo64.l
    | .rm => bit Nintendo64.z
    | .rs => bit Nintendo64.r
    | _ => 0

def saturn : ButtonTable where
  entry
    | .ldLeft => bit Saturn.ldLeft
    | .ldRight => bit Saturn.ldRight
    | .ldDown => bit Saturn.ldDown
    | .ldUp => bit Saturn.ldUp
    | .rbLeft => bit Saturn.a
    | .rbRight => bit Saturn.c
    | .rbDown => bit Saturn.b
    | .rbUp => bit Saturn.y
    | .mm => bit Saturn.start
    | .lm => bit Saturn.l
    | .ls => bit Saturn.x
    | .rm => bit Saturn.r
    | .rs => bit Saturn.z
    | _ => 0

end PadBench.Wired.Buttons
