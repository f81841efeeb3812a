import PadBench.Proofs.Adapter.Digital

/-!
The bits of a word that a button has, and what becomes of the others.

* `WirelessPad.areLabels`, `Console.areLabels`: a label stands for one bit, and a bit has one label;
* `WirelessPad.generic_under_positions`: of the word of a report, a bit that is no button's presses nothing;
* `Console.testBit_union_iff`: buttons drive exactly the wires with a label;
* `Adapter.wire_rests`: any other wire stays at its idle level.
-/
namespace PadBench

/-- The word of some positions. -/
def positionWord (positions : List Nat) : UInt32 := positions.foldr (fun position word => bit position ||| word) 0

theorem toNat_bit : ∀ position < 32, (bit position).toNat = 2 ^ position := by decide

theorem testBit_positionWord {positions : List Nat} (within : ∀ position ∈ positions, position < 32) (i : Nat) :
    (positionWord positions).toNat.testBit i = true ↔ i ∈ positions := by
  induction positions with
  | nil => simp [positionWord]
  | cons position positions ih =>
    rw [List.forall_mem_cons] at within
    rw [positionWord, List.foldr_cons, ← positionWord, UInt32.toNat_or, Nat.testBit_or, toNat_bit _ within.1,
      Nat.testBit_two_pow, Bool.or_eq_true, decide_eq_true_eq, ih within.2, List.mem_cons]
    exact or_congr_left eq_comm

/-- Labels of the bits of a word: no label stands for two bits, and no bit has two. -/
structure AreLabels (labels : List (String × Nat)) : Prop where
  within : ∀ position ∈ labels.map Prod.snd, position < 32
  names : (labels.map Prod.fst).Nodup
  positions : (labels.map Prod.snd).Nodup

namespace WirelessPad

open Wireless.Layout

/-- The labels of the buttons in the reports of a pad. -/
def labels : WirelessPad → List (String × Nat)
  | .ps4 | .ps5 => PlayStation.labelled
  | .ps3 => PlayStation3.labelled
  | .xbox => Xbox.labelled
  | .switchSimple | .admiral | .brawler64 => SwitchSimple.labelled
  | .switchPro | .leftJoyCon | .rightJoyCon | .switchNintendo64 | .switchSuperNes | .switchNes
  | .switchGenesis | .switchPowerA => SwitchFull.labelled
  | .wiiRemote => WiiRemote.labelled
  | .wiiClassic | .wiiClassicByte | .wiiClassicPro | .wiiClassicProByte | .wiiUPro => WiiClassic.labelled
  | .generic => Generic.labelled

/-- Where the buttons of a pad are. A generic pad has five more than have a label. -/
def positions (pad : WirelessPad) : List Nat :=
  pad.labels.map Prod.snd ++ if pad = .generic then [15, 16, 17, 18, 19] else []

theorem areLabels (pad : WirelessPad) : AreLabels pad.labels := by
  cases pad <;> exact ⟨by decide, by decide, by decide⟩

theorem union_under_positions (pad : WirelessPad) :
    positionWord pad.positions &&& pad.buttons.union = pad.buttons.union := by
  cases pad <;> decide

/-- Of the word of a report, a bit that is no button's presses nothing. -/
theorem generic_under_positions (pad : WirelessPad) (word : UInt32) :
    pad.buttons.generic (word &&& positionWord pad.positions) = pad.buttons.generic word := by
  rw [ButtonTable.generic, ButtonTable.generic, ← pad.buttons.presses_and_union, UInt32.and_assoc,
    union_under_positions, pad.buttons.presses_and_union]

end WirelessPad

namespace Console

open Wired.Layout

/-- The labels of the wires of a console. -/
def labels : Console → List (String × Nat)
  | .gameCube => GameCube.labelled
  | .nintendo64 => Nintendo64.labelled
  | .saturn => Saturn.labelled

theorem areLabels (console : Console) : AreLabels console.labels := by
  cases console <;> exact ⟨by decide, by decide, by decide⟩

theorem testBit_union_iff (console : Console) (wire : Nat) :
    console.buttons.union.toNat.testBit wire = true ↔ wire ∈ console.labels.map Prod.snd := by
  have whole : console.buttons.union = positionWord (console.labels.map Prod.snd) := by cases console <;> decide
  rw [whole, testBit_positionWord console.areLabels.within]

end Console

/-- Whatever a report says, a wire without a label stays at its idle level. -/
theorem Adapter.wire_rests {adapter : Adapter} {console : Console} (fed : adapter.wired = console.profile)
    {wire : Nat} (unlabelled : wire ∉ console.labels.map Prod.snd) (state : PadState) :
    (adapter.wiredButtons state).toNat.testBit wire = console.idle.toNat.testBit wire := by
  refine Decidable.byContradiction fun moved => ?_
  have idle : adapter.wired.idle = console.idle := congrArg WiredProfile.idle fed
  rw [← idle] at moved
  obtain ⟨button, -, drives⟩ := (adapter.wire_moves_iff state wire).mp moved
  rw [fed] at drives
  exact unlabelled ((console.testBit_union_iff wire).mp ((ButtonTable.testBit_union _ wire).mpr ⟨button, drives⟩))

end PadBench
