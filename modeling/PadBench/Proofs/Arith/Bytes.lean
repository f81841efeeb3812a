import Mathlib.Algebra.Group.Nat.Defs
import PadBench.Arith.ByteOrder

/-!
Numbers and bytes, either read back from the other: a field of `width` bytes gives its number again, and
one too great for it gives the greatest number of the field.
-/
namespace PadBench.ByteOrder

theorem toBytes_succ (width value : Nat) :
    toBytes (width + 1) value = UInt8.ofNat value :: toBytes width (value >>> 8) := by
  simp only [toBytes, List.range_succ_eq_map, List.map_cons, List.map_map, Nat.mul_zero,
    Nat.shiftRight_zero]
  congr 1
  apply List.map_congr_left
  intro position _
  simp only [Function.comp, ← Nat.shiftRight_add]
  congr 2
  omega

theorem toBytes_two (value : Nat) : toBytes 2 value = [UInt8.ofNat value, UInt8.ofNat (value >>> 8)] := rfl

@[simp] theorem length_toBytes (width value : Nat) : (toBytes width value).length = width := by
  simp [toBytes]

theorem ofBytes_toBytes (width value : Nat) :
    ofBytes (toBytes width value) = value % 256 ^ width := by
  induction width generalizing value with
  | zero => simp [toBytes, ofBytes, Nat.mod_one]
  | succ width ih =>
    have low : (UInt8.ofNat value).toNat = value % 256 := by simp
    have split : value % 256 ^ (width + 1) = value % 256 + 256 * (value / 256 % 256 ^ width) := by
      rw [Nat.pow_succ, Nat.mul_comm (256 ^ width) 256, Nat.mod_mul]
    rw [toBytes_succ, ofBytes, ih, low, split, Nat.shiftRight_eq_div_pow, Nat.shiftLeft_eq,
      Nat.mul_comm]

theorem ofBytes_lt (bytes : List UInt8) : ofBytes bytes < 256 ^ bytes.length := by
  induction bytes with
  | nil => exact Nat.one_pos
  | cons byte rest ih =>
    have low := byte.toNat_lt
    rw [ofBytes, Nat.shiftLeft_eq, List.length_cons, Nat.pow_succ]
    omega

/-- Bytes are those of the number that is read from them. -/
theorem toBytes_ofBytes (bytes : List UInt8) : toBytes bytes.length (ofBytes bytes) = bytes := by
  induction bytes with
  | nil => rfl
  | cons byte rest ih =>
    have high := byte.toNat_lt
    have below : (byte.toNat + ofBytes rest * 2 ^ 8) / 2 ^ 8 = ofBytes rest := by omega
    have low : UInt8.ofNat (byte.toNat + ofBytes rest * 2 ^ 8) = byte := by
      rw [← UInt8.toNat_inj, UInt8.toNat_ofNat']
      omega
    rw [List.length_cons, ofBytes, toBytes_succ, Nat.shiftLeft_eq, Nat.shiftRight_eq_div_pow, below, low, ih]

theorem fieldGreatest_succ (width : Nat) : fieldGreatest width + 1 = 256 ^ width := by
  have positive : 0 < 2 ^ (8 * width) := Nat.pow_pos (by decide)
  have base : (256 : Nat) ^ width = 2 ^ (8 * width) := by rw [Nat.pow_mul]
  simp only [fieldGreatest, Nat.one_shiftLeft]
  omega

theorem ofBytes_field (width value : Nat) :
    ofBytes (field width value) = min value (fieldGreatest width) := by
  have bound := fieldGreatest_succ width
  rw [field, ofBytes_toBytes, Nat.mod_eq_of_lt]
  omega

theorem ofBytes_field_of_le {width value : Nat} (fits : value ≤ fieldGreatest width) :
    ofBytes (field width value) = value := by
  rw [ofBytes_field, Nat.min_eq_left fits]

/-- A field shows a number up to its greatest. -/
theorem field_eq_iff {width value other : Nat} :
    field width value = field width other ↔
      min value (fieldGreatest width) = min other (fieldGreatest width) := by
  constructor
  · intro same
    have numbers := congrArg ofBytes same
    rwa [ofBytes_field, ofBytes_field] at numbers
  · intro same
    rw [field, field, same]

end PadBench.ByteOrder
