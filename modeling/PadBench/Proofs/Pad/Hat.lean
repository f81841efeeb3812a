import PadBench.Pad.Hat
import PadBench.Proofs.Pad.ButtonTable

/-!
What a hat presses, told by where its directions and the D-pad positions lie.

* `testBit_decode_iff`: a code presses exactly the positions it points to.
-/
namespace PadBench.Hat

/-- Where a position of the D-pad lies, in eighths of a turn clockwise from up. -/
def bearing? : PadButton → Option Nat
  | .ldUp => some 0
  | .ldRight => some 2
  | .ldDown => some 4
  | .ldLeft => some 6
  | _ => none

/-- A direction, in the same measure, covers the positions that lie at most one eighth to either side, where
7 is one eighth back. -/
def Covers (direction : Nat) (button : PadButton) : Prop :=
  ∃ bearing ∈ bearing? button, ∃ side ∈ [7, 0, 1], (bearing + side) % 8 = direction

instance (direction : Nat) (button : PadButton) : Decidable (Covers direction button) :=
  inferInstanceAs (Decidable (∃ bearing ∈ bearing? button, _))

namespace Encoding

/-- The code stands for a direction, counted around the sixteen codes from the code of up, and the
direction covers the position. -/
def Points (encoding : Encoding) (code : UInt8) (button : PadButton) : Prop :=
  ∃ direction, (encoding.up.toNat + direction) % codes = code.toNat % codes ∧ Covers direction button

end Encoding

theorem covers_lt {direction : Nat} {button : PadButton} (covers : Covers direction button) :
    direction < 8 := by
  obtain ⟨_, _, _, _, rfl⟩ := covers
  exact Nat.mod_lt _ (by decide)

theorem testBit_dpad_iff {turn : Nat} (short : turn < codes) (button : PadButton) :
    (dpad turn).toNat.testBit button.index = true ↔ Covers turn button := by
  -- Both sides are tables of sixteen turns by the positions of a pad.
  have table : ∀ turn < codes, ∀ button ∈ PadButton.all,
      ((dpad turn).toNat.testBit button.index = true ↔ Covers turn button) := by
    decide +kernel
  exact table turn short button button.mem_all

theorem toNat_nibble (code : UInt8) : (code &&& 0xF).toNat = code.toNat % codes := by
  rw [UInt8.toNat_and]
  exact Nat.and_two_pow_sub_one_eq_mod code.toNat 4

/-- How far a code is from that of up, around the sixteen codes. -/
theorem turn_eq_iff (code up : UInt8) {turn : Nat} (short : turn < codes) :
    ((code - up) &&& 0xF).toNat = turn ↔ (up.toNat + turn) % codes = code.toNat % codes := by
  have bounds := And.intro code.toNat_lt up.toNat_lt
  rw [toNat_nibble, UInt8.toNat_sub]
  unfold codes at short ⊢
  omega

/-- Only the low nibble of a code counts. -/
theorem Encoding.decode_nibble (encoding : Encoding) (code : UInt8) :
    encoding.decode (code &&& 0xF) = encoding.decode code := by
  have same : ((code &&& 0xF) - encoding.up) &&& 0xF = (code - encoding.up) &&& 0xF := by
    apply UInt8.toNat_inj.mp
    have bound := encoding.up.toNat_lt
    simp only [toNat_nibble, UInt8.toNat_sub, codes]
    omega
  rw [decode, decode, same]

theorem testBit_decode_iff (encoding : Encoding) (code : UInt8) (button : PadButton) :
    (encoding.decode code).toNat.testBit button.index = true ↔ encoding.Points code button := by
  have short : ((code - encoding.up) &&& 0xF).toNat < codes := by
    rw [toNat_nibble]
    exact Nat.mod_lt _ (by decide)
  rw [Encoding.decode, testBit_dpad_iff short]
  constructor
  · intro covers
    exact ⟨_, (turn_eq_iff code encoding.up short).mp rfl, covers⟩
  · rintro ⟨direction, counted, covers⟩
    have turn := (turn_eq_iff code encoding.up (Nat.lt_trans (covers_lt covers) (by decide))).mpr counted
    rwa [turn]

end PadBench.Hat
