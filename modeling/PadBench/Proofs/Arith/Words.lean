import Mathlib.Algebra.Group.Nat.Defs
import PadBench.Arith.ByteOrder

/-!
Words of buttons bit by bit, and what is left of a word that shares its field with something else.
-/
namespace PadBench.Word

theorem ext_testBit {a b : UInt32} (same : ∀ i, a.toNat.testBit i = b.toNat.testBit i) : a = b :=
  UInt32.toNat_inj.mp (Nat.eq_of_testBit_eq same)

/-- Two words meet in a bit that both have set. -/
theorem and_ne_zero_iff {a b : UInt32} :
    a &&& b ≠ 0 ↔ ∃ i, a.toNat.testBit i = true ∧ b.toNat.testBit i = true := by
  have shared (i : Nat) : (a &&& b).toNat.testBit i = true ↔
      a.toNat.testBit i = true ∧ b.toNat.testBit i = true := by
    rw [UInt32.toNat_and, Nat.testBit_and, Bool.and_eq_true]
  constructor
  · intro some
    obtain ⟨i, set⟩ := Nat.exists_testBit_of_ne_zero fun none => some (UInt32.toNat_inj.mp none)
    exact ⟨i, (shared i).mp set⟩
  · rintro ⟨i, both⟩ none
    have set := (shared i).mpr both
    rw [none, UInt32.toNat_zero, Nat.zero_testBit] at set
    cases set

/-- A word lies under another exactly if the other has each of its bits. -/
theorem and_eq_left_iff {a b : UInt32} :
    a &&& b = a ↔ ∀ i, a.toNat.testBit i = true → b.toNat.testBit i = true := by
  have shared (i : Nat) : (a &&& b).toNat.testBit i = (a.toNat.testBit i && b.toNat.testBit i) := by
    rw [UInt32.toNat_and, Nat.testBit_and]
  constructor
  · intro under i set
    have here := shared i
    rw [under, set, Bool.true_and] at here
    exact here.symm
  · intro each
    refine ext_testBit fun i => ?_
    rw [shared]
    cases set : a.toNat.testBit i with
    | false => rfl
    | true => exact each i set

/-- Bits beside a mask do not show through a word that lies under it. -/
theorem and_masked_or {under mask beside : UInt32} (word : UInt32) (inside : under &&& mask = under)
    (outside : mask &&& beside = 0) : under &&& ((word &&& mask) ||| beside) = under &&& word := by
  apply ext_testBit
  intro i
  have inside := congrArg (fun word => word.toNat.testBit i) inside
  have outside := congrArg (fun word => word.toNat.testBit i) outside
  simp only [UInt32.toNat_and, UInt32.toNat_or, UInt32.toNat_zero, Nat.testBit_and, Nat.testBit_or,
    Nat.zero_testBit] at inside outside ⊢
  grind

/-- A number beside a masked word is what the low bits hold. -/
theorem masked_or_mod {width : Nat} {mask low : UInt32} (word : UInt32)
    (free : mask.toNat % 2 ^ width = 0) (short : low.toNat < 2 ^ width) :
    ((word &&& mask) ||| low).toNat % 2 ^ width = low.toNat := by
  apply Nat.eq_of_testBit_eq
  intro i
  have free := congrArg (Nat.testBit · i) free
  have short := congrArg (Nat.testBit · i) (Nat.mod_eq_of_lt short)
  simp only [UInt32.toNat_and, UInt32.toNat_or, Nat.testBit_mod_two_pow, Nat.testBit_and,
    Nat.testBit_or, Nat.zero_testBit] at free short ⊢
  grind

theorem masked_or_lt {width : Nat} {word low : UInt32} (mask : UInt32)
    (narrow : word.toNat < 2 ^ width) (short : low.toNat < 2 ^ width) :
    ((word &&& mask) ||| low).toNat < 2 ^ width := by
  rw [UInt32.toNat_or, UInt32.toNat_and]
  exact Nat.or_lt_two_pow (Nat.lt_of_le_of_lt Nat.and_le_left narrow) short

/-- A word past the low bits stays past them under a mask that keeps the others. -/
theorem le_masked_or {width : Nat} {word mask : UInt32} (low : UInt32)
    (keeps : ∀ i < 32, width ≤ i → mask.toNat.testBit i = true) (wide : 2 ^ width ≤ word.toNat) :
    2 ^ width ≤ ((word &&& mask) ||| low).toNat := by
  obtain ⟨i, past, set⟩ := Nat.exists_ge_and_testBit_of_ge_two_pow wide
  have inside : i < 32 := by
    apply Classical.byContradiction
    intro outside
    have short : word.toNat < 2 ^ i :=
      Nat.lt_of_lt_of_le word.toNat_lt (Nat.pow_le_pow_right (by decide) (Nat.le_of_not_lt outside))
    rw [Nat.testBit_lt_two_pow short] at set
    cases set
  have kept : ((word &&& mask) ||| low).toNat.testBit i = true := by
    rw [UInt32.toNat_or, UInt32.toNat_and, Nat.testBit_or, Nat.testBit_and, set, keeps i inside past]
    rfl
  exact Nat.le_trans (Nat.pow_le_pow_right (by decide) past) (Nat.ge_two_pow_of_testBit kept)

/-- Below a bound no bit past it shows whether a mask keeps it. -/
theorem and_eq_and_of_lt {width : Nat} {word mask narrow : UInt32} (short : word.toNat < 2 ^ width)
    (same : mask.toNat % 2 ^ width = narrow.toNat % 2 ^ width) : word &&& mask = word &&& narrow := by
  apply ext_testBit
  intro i
  have same := congrArg (Nat.testBit · i) same
  have short := congrArg (Nat.testBit · i) (Nat.mod_eq_of_lt short)
  simp only [UInt32.toNat_and, Nat.testBit_mod_two_pow, Nat.testBit_and] at same short ⊢
  grind

/-- A masked word and what lies beside it are all set if each is. -/
theorem masked_or_eq_iff {word mask beside rest : UInt32} (apart : mask &&& rest = 0)
    (within : beside &&& rest = beside) :
    (word &&& mask) ||| beside = mask ||| rest ↔ word &&& mask = mask ∧ beside = rest := by
  constructor
  · intro same
    have bit (i : Nat) : _ ∧ _ ∧ _ :=
      ⟨congrArg (fun word => word.toNat.testBit i) same, congrArg (fun word => word.toNat.testBit i) apart,
        congrArg (fun word => word.toNat.testBit i) within⟩
    simp only [UInt32.toNat_and, UInt32.toNat_or, UInt32.toNat_zero, Nat.testBit_and, Nat.testBit_or,
      Nat.zero_testBit] at bit
    refine ⟨ext_testBit fun i => ?_, ext_testBit fun i => ?_⟩
    · have here := bit i
      rw [UInt32.toNat_and, Nat.testBit_and]
      grind
    · have here := bit i
      grind
  · rintro ⟨set, rfl⟩
    rw [set]

end PadBench.Word
