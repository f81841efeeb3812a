import Mathlib.Algebra.Group.Int.Defs
import PadBench.Pad.Response
import PadBench.Wired.Console
import PadBench.Wireless.Pad

/-!
What of a scaled axis value fits the wire.

A storage range bounds the scaled value before the console's neutral is added to it. On every axis but the
triggers of the GameCube the two together are the byte on the wire.

* `Response.mapped_eq_clamp`: the scaled value is what the storage range leaves of an unbounded one;
* `Response.sample_wired`: where both have sixteen bits, the console's neutral is added to it as it is;
* `Console.sample_fits_iff`: which samples fit the byte.
-/
namespace PadBench

namespace StorageRange

def Holds (range : StorageRange) (value : Int) : Prop := range.least ≤ value ∧ value ≤ range.greatest

instance (range : StorageRange) (value : Int) : Decidable (range.Holds value) :=
  inferInstanceAs (Decidable (_ ∧ _))

theorem clamp_of_holds {range : StorageRange} {value : Int} (holds : range.Holds value) :
    range.clamp value = value := by
  obtain ⟨low, high⟩ := holds
  rw [clamp, if_neg (by omega), if_neg (by omega)]

theorem holds_clamp {range : StorageRange} {inside : Int} (holds : range.Holds inside) (value : Int) :
    range.Holds (range.clamp value) := by
  obtain ⟨low, high⟩ := holds
  unfold clamp Holds
  split
  · omega
  · split <;> omega

end StorageRange

/-- What is stored, and the neutral, are numbers of sixteen bits. -/
structure Calibration.StoresNarrow (wired : Calibration) (range : StorageRange) : Prop where
  ranged : wired.range = some range
  rest : range.Holds 0
  low : -2 ^ 16 < range.least
  high : range.greatest < 2 ^ 16
  neutral : 0 ≤ wired.neutral ∧ wired.neutral < 2 ^ 16

/-- The byte that carries an axis on a console's wire. -/
def Console.axisByte : Console → StorageRange
  | .gameCube | .saturn => ⟨0, 255⟩
  | .nintendo64 => ⟨-128, 127⟩

namespace Response

variable (axis : Axis) (source : Calibration) {wired : Calibration} (fraction : BinaryFloat)

/-- The scaled value of a generic one before a storage range bounds it. -/
def unbounded (axis : Axis) (source wired : Calibration) (fraction : BinaryFloat) (genericValue : Int) :
    Int :=
  if isDead source fraction genericValue then 0
  else
    let direction := axis.sign wired.inverted * genericValue.sign
    direction * max ((regime (magnitude genericValue) (source.travel genericValue) (wired.travel direction)
      source.fixedDeadzone fraction).apply (magnitude genericValue)) 0

theorem mapped_eq_clamp {range : StorageRange} (ranged : wired.range = some range) (rest : range.Holds 0)
    (genericValue : Int) :
    mapped axis source wired fraction genericValue =
      range.clamp (unbounded axis source wired fraction genericValue) := by
  unfold mapped unbounded
  split
  · rw [StorageRange.clamp_of_holds rest]
  · rw [ranged]

theorem mapped_of_dead {genericValue : Int} (dead : isDead source fraction genericValue = true) :
    mapped axis source wired fraction genericValue = 0 := by
  rw [mapped, if_pos dead]

/-- A sum within the range is wired as it is. -/
theorem sample_wired_of_exact {raw : Int}
    (exact : isDead source fraction (generic axis source raw) = false →
      Signed32.wrap (mapped axis source wired fraction (generic axis source raw) + wired.neutral) =
        mapped axis source wired fraction (generic axis source raw) + wired.neutral) :
    (sample axis source wired fraction raw).wired =
      (sample axis source wired fraction raw).mapped + wired.neutral := by
  simp only [sample, wiredValue]
  split
  · rename_i dead
    rw [mapped_of_dead axis source fraction dead, Int.zero_add]
  · rename_i live
    exact exact (Bool.not_eq_true _ ▸ live)

theorem mapped_narrow {range : StorageRange} (stores : wired.StoresNarrow range) (genericValue : Int) :
    -2 ^ 16 < mapped axis source wired fraction genericValue ∧
      mapped axis source wired fraction genericValue < 2 ^ 16 := by
  rw [mapped_eq_clamp axis source fraction stores.ranged stores.rest]
  have held := StorageRange.holds_clamp stores.rest (unbounded axis source wired fraction genericValue)
  exact ⟨Int.lt_of_lt_of_le stores.low held.1, Int.lt_of_le_of_lt held.2 stores.high⟩

theorem sample_wired {range : StorageRange} (stores : wired.StoresNarrow range) (raw : Int) :
    (sample axis source wired fraction raw).wired =
      (sample axis source wired fraction raw).mapped + wired.neutral := by
  apply sample_wired_of_exact
  intro _
  have stored := mapped_narrow axis source fraction stores (generic axis source raw)
  have neutral := stores.neutral
  exact Signed32.wrap_of_mem (by rw [Signed32.least]; omega) (by rw [Signed32.greatest]; omega)

end Response

namespace Console

theorem axes_storeNarrow (console : Console) {axis : Axis} {wired : Calibration}
    (has : console.axes.get axis = some wired) : ∃ range, wired.StoresNarrow range := by
  cases console <;> cases axis <;> cases has <;>
    exact ⟨_, rfl, by decide, by decide, by decide, by decide⟩

/-- On every axis but the triggers of the GameCube, the storage range around the neutral is the byte. -/
theorem storage_is_byte {console : Console} {axis : Axis} {wired : Calibration}
    (has : console.axes.get axis = some wired) (plain : ¬ (console = .gameCube ∧ axis.isTrigger = true)) :
    ∃ range, wired.range = some range ∧ range.Holds 0 ∧
      console.axisByte = ⟨range.least + wired.neutral, range.greatest + wired.neutral⟩ := by
  cases console <;> cases axis <;> cases has <;>
    first
    | exact absurd ⟨rfl, rfl⟩ plain
    | exact ⟨_, rfl, by decide, rfl⟩

theorem gameCube_trigger {axis : Axis} {wired : Calibration} (trigger : axis.isTrigger = true)
    (has : Console.gameCube.axes.get axis = some wired) : wired = Wired.Axes.gameCubeTrigger := by
  cases axis <;> cases trigger <;> exact (Option.some.inj has).symm

/-- A sample fits its byte, whatever the pad, its calibration, the deadzone and the raw value, but for a
GameCube trigger that is scaled past what its neutral leaves of the byte. -/
theorem sample_fits_iff (console : Console) {axis : Axis} {wired : Calibration}
    (has : console.axes.get axis = some wired) (source : Calibration) (fraction : BinaryFloat) (raw : Int) :
    console.axisByte.Holds (Response.sample axis source wired fraction raw).wired ↔
      (console = .gameCube → axis.isTrigger = true →
        Response.unbounded axis source wired fraction (Response.generic axis source raw) ≤ 0xDF) := by
  have stored {range : StorageRange} (ranged : wired.range = some range) (rest : range.Holds 0) :
      (Response.sample axis source wired fraction raw).wired =
        range.clamp (Response.unbounded axis source wired fraction (Response.generic axis source raw)) +
          wired.neutral := by
    obtain ⟨_, stores⟩ := console.axes_storeNarrow has
    rw [← Response.mapped_eq_clamp axis source fraction ranged rest]
    exact Response.sample_wired axis source fraction stores raw
  by_cases overshoots : console = .gameCube ∧ axis.isTrigger = true
  · obtain ⟨rfl, trigger⟩ := overshoots
    obtain rfl := gameCube_trigger trigger has
    have range : Wired.Axes.gameCubeTrigger.range = some ⟨0, 255⟩ := rfl
    have neutral : Wired.Axes.gameCubeTrigger.neutral = 32 := rfl
    rw [stored range (by decide), neutral]
    simp only [axisByte, StorageRange.Holds, StorageRange.clamp, trigger, forall_const]
    generalize Response.unbounded axis source Wired.Axes.gameCubeTrigger fraction
      (Response.generic axis source raw) = value
    split
    · omega
    · split <;> omega
  · obtain ⟨range, ranged, rest, byte⟩ := storage_is_byte has overshoots
    have within := StorageRange.holds_clamp rest
      (Response.unbounded axis source wired fraction (Response.generic axis source raw))
    refine iff_of_true ?_ fun isGameCube trigger => absurd ⟨isGameCube, trigger⟩ overshoots
    rw [stored ranged rest, byte]
    exact ⟨Int.add_le_add_right within.1 _, Int.add_le_add_right within.2 _⟩

/-- The trigger of an Xbox pad, just short of its full travel. -/
theorem sample_fits_iff_xbox :
    Console.gameCube.axes.get .lm = some Wired.Axes.gameCubeTrigger ∧
      Console.gameCube.axisByte.Holds (Response.sample .lm (.asymmetric 0x000 0x3FF 0x000)
        Wired.Axes.gameCubeTrigger Response.defaultFraction 0x3FE).wired := by
  refine ⟨rfl, (sample_fits_iff .gameCube rfl _ _ _).mpr fun _ _ => ?_⟩
  decide

/-- With two fifths of its travel dead the same trigger leaves the byte there. -/
theorem sample_leaves_byte :
    ∃ wired, Console.gameCube.axes.get .lm = some wired ∧
      WirelessPad.xbox.axes.get .lm = some (.asymmetric 0x000 0x3FF 0x000) ∧
      (Response.sample .lm (.asymmetric 0x000 0x3FF 0x000) wired (.ofDecimal .single false 4 (-1)) 0x3FE).wired =
        258 ∧
      ¬ Console.gameCube.axisByte.Holds (Response.sample .lm (.asymmetric 0x000 0x3FF 0x000) wired
        (.ofDecimal .single false 4 (-1)) 0x3FE).wired := by
  refine ⟨_, rfl, rfl, ?_, ?_⟩ <;> decide

end Console

end PadBench
