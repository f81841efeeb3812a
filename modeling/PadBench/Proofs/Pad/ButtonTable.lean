import PadBench.Pad.ButtonTable
import PadBench.Proofs.Arith.Words

/-!
What a button table makes of a word, bit by bit.

* `testBit_gather`: a union has exactly the bits of the words it is of;
* `retarget_eq_drive_generic`: a word of a pad drives the same wires directly and through the generic word;
* `remap_additive`: buttons do not interact, none is lost, and a bit that no entry holds does nothing.
-/
namespace PadBench

namespace PadButton

theorem index_injective {a b : PadButton} (same : a.index = b.index) : a = b := by
  have found := congrArg ofIndex? same
  rw [ofIndex?_index, ofIndex?_index] at found
  exact Option.some.inj found

theorem testBit_mask (button : PadButton) (i : Nat) :
    button.mask.toNat.testBit i = decide (button.index = i) := by
  have power : button.mask.toNat = 2 ^ button.index := by cases button <;> rfl
  rw [power, Nat.testBit_two_pow]

variable (chosen : PadButton → Bool) (word : PadButton → UInt32)

/-- The bits of a union under way: those it began with and those of the words taken so far. -/
theorem testBit_foldl_gather (buttons : List PadButton) (sum : UInt32) (i : Nat) :
    (buttons.foldl (fun sum button => if chosen button then sum ||| word button else sum)
        sum).toNat.testBit i = true ↔
      sum.toNat.testBit i = true ∨
        ∃ button ∈ buttons, chosen button = true ∧ (word button).toNat.testBit i = true := by
  induction buttons generalizing sum with
  | nil => simp only [List.foldl_nil, List.not_mem_nil, false_and, exists_false, or_false]
  | cons button buttons ih =>
    simp only [List.foldl_cons, ih, List.mem_cons, exists_eq_or_imp, ← or_assoc]
    refine or_congr_left ?_
    by_cases taken : chosen button = true
    · rw [if_pos taken, UInt32.toNat_or, Nat.testBit_or, Bool.or_eq_true, and_iff_right taken]
    · rw [if_neg taken]
      exact (or_iff_left fun both => taken both.1).symm

theorem testBit_gather (i : Nat) :
    (gather chosen word).toNat.testBit i = true ↔
      ∃ button, chosen button = true ∧ (word button).toNat.testBit i = true := by
  rw [gather, testBit_foldl_gather, UInt32.toNat_zero, Nat.zero_testBit]
  simp only [Bool.false_eq_true, false_or, mem_all, true_and]

theorem gather_none : gather (fun _ => false) word = 0 := rfl

theorem gather_or (others : PadButton → Bool) :
    gather (fun button => chosen button || others button) word =
      gather chosen word ||| gather others word := by
  refine Word.ext_testBit fun i => Bool.eq_iff_iff.mpr ?_
  rw [UInt32.toNat_or, Nat.testBit_or, Bool.or_eq_true]
  simp only [testBit_gather, Bool.or_eq_true, or_and_right, exists_or]

/-- A union taken over the chosen positions alone. -/
theorem gather_eq_foldl :
    gather chosen word = (all.filter chosen).foldl (fun sum button => sum ||| word button) 0 := by
  rw [gather, List.foldl_filter]

end PadButton

namespace ButtonTable

variable (source wired : ButtonTable) (word other : UInt32) (button : PadButton)

theorem presses_iff :
    source.presses word button = true ↔
      ∃ i, (source.entry button).toNat.testBit i = true ∧ word.toNat.testBit i = true := by
  rw [presses, bne_iff_ne, Word.and_ne_zero_iff]

theorem testBit_union (i : Nat) :
    source.union.toNat.testBit i = true ↔ ∃ button, (source.entry button).toNat.testBit i = true := by
  simp only [union, PadButton.testBit_gather, true_and]

theorem presses_zero : source.presses 0 = fun _ => false := by
  funext button
  rw [presses, UInt32.and_zero]
  rfl

theorem presses_or : source.presses (word ||| other) button =
    (source.presses word button || source.presses other button) := by
  refine Bool.eq_iff_iff.mpr ?_
  rw [Bool.or_eq_true, presses_iff, presses_iff, presses_iff, ← exists_or]
  simp only [UInt32.toNat_or, Nat.testBit_or, Bool.or_eq_true, and_or_left]

/-- What presses a position is in the union of the table. -/
theorem presses_and_union : source.presses (word &&& source.union) = source.presses word := by
  funext button
  refine Bool.eq_iff_iff.mpr ?_
  rw [presses_iff, presses_iff]
  refine exists_congr fun i => and_congr_right fun entry => ?_
  rw [UInt32.toNat_and, Nat.testBit_and, Bool.and_eq_true]
  exact and_iff_left ((source.testBit_union i).mpr ⟨button, entry⟩)

theorem entry_under_union (button : PadButton) :
    source.entry button &&& source.union = source.entry button :=
  Word.and_eq_left_iff.mpr fun i set => (source.testBit_union i).mpr ⟨button, set⟩

/-- All bits together press every position that has any. -/
theorem presses_union : source.presses source.union = source.isActive := by
  funext button
  rw [presses, entry_under_union, isActive]

theorem generic_zero : source.generic 0 = 0 := by
  rw [generic, presses_zero, PadButton.gather_none]

theorem retarget_zero : source.retarget wired 0 = 0 := by
  rw [retarget, presses_zero, PadButton.gather_none]

theorem drive_zero : wired.drive 0 = 0 := identity.retarget_zero wired

/-- A generic word has the bits of the positions pressed. -/
theorem testBit_generic :
    (source.generic word).toNat.testBit button.index = source.presses word button := by
  refine Bool.eq_iff_iff.mpr ?_
  rw [generic, PadButton.testBit_gather]
  constructor
  · rintro ⟨pressed, presses, bit⟩
    rw [PadButton.testBit_mask, decide_eq_true_eq] at bit
    rwa [← PadButton.index_injective bit]
  · intro presses
    exact ⟨button, presses, by rw [PadButton.testBit_mask, decide_eq_true rfl]⟩

theorem presses_identity : identity.presses word button = word.toNat.testBit button.index := by
  refine Bool.eq_iff_iff.mpr ?_
  rw [presses_iff]
  constructor
  · rintro ⟨i, bit, set⟩
    rw [identity, PadButton.testBit_mask, decide_eq_true_eq] at bit
    rwa [bit]
  · intro set
    exact ⟨button.index, by rw [identity, PadButton.testBit_mask, decide_eq_true rfl], set⟩

/-- The wires a generic word drives. -/
theorem testBit_drive (wire : Nat) :
    (wired.drive word).toNat.testBit wire = true ↔
      ∃ button, word.toNat.testBit button.index = true ∧
        (wired.entry button).toNat.testBit wire = true := by
  simp only [drive, retarget, PadButton.testBit_gather, presses_identity]

/-- A word of a pad drives the same wires directly as it does folded into a generic word first, whatever
bits the entries of either table share. -/
theorem retarget_eq_drive_generic : source.retarget wired word = wired.drive (source.generic word) := by
  have pressed : source.presses word = identity.presses (source.generic word) := by
    funext button
    rw [presses_identity, testBit_generic]
  rw [drive, retarget, retarget, pressed]

/-- Folding and retargeting take the union of two words to that of their results and nothing to nothing.
They see no bit outside the table of the pad; all its bits together press each position that has any, and
drive the entries of just those positions. -/
theorem remap_additive :
    source.generic (word ||| other) = source.generic word ||| source.generic other ∧
      source.retarget wired (word ||| other) = source.retarget wired word ||| source.retarget wired other ∧
      source.generic 0 = 0 ∧ source.retarget wired 0 = 0 ∧
      source.generic (word &&& source.union) = source.generic word ∧
      source.retarget wired (word &&& source.union) = source.retarget wired word ∧
      source.generic source.union = source.coverage ∧
      source.retarget wired source.union =
        source.active.foldl (fun sum button => sum ||| wired.entry button) 0 := by
  have both : source.presses (word ||| other) =
      fun button => source.presses word button || source.presses other button :=
    funext (source.presses_or word other)
  refine ⟨?_, ?_, source.generic_zero, source.retarget_zero wired, ?_, ?_, ?_, ?_⟩
  · rw [generic, both, PadButton.gather_or, generic, generic]
  · rw [retarget, both, PadButton.gather_or, retarget, retarget]
  · rw [generic, presses_and_union, generic]
  · rw [retarget, presses_and_union, retarget]
  · rw [generic, presses_union, coverage]
  · rw [retarget, presses_union, PadButton.gather_eq_foldl, active]

end ButtonTable

end PadBench
