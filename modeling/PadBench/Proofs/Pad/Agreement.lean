import PadBench.Proofs.Pad.ButtonTable

/-!
Button tables that fold the entries of one of them alike.

A word that holds each entry that it meets as a whole is folded alike by all of them
(`generic_eq_of_holdsWhole`). Where no two entries share a bit there is no other such word (`fixes_iff`), as a
part of an entry can be left out, and nothing is pressed that should not be (`generic_under_of_agrees`).
-/
namespace PadBench

namespace ButtonTable

/-- No bit is in the entries of two positions. -/
def IsDisjoint (table : ButtonTable) : Prop := ∀ a b, a ≠ b → table.entry a &&& table.entry b = 0

/-- No entry has more than one bit. -/
def HasSingleBits (table : ButtonTable) : Prop :=
  ∀ button, table.entry button = 0 ∨ ∃ i, (table.entry button).toNat = 2 ^ i

/-- The word has all the bits of an entry or none of them. -/
def HoldsWhole (table : ButtonTable) (word : UInt32) : Prop :=
  ∀ button, table.entry button &&& word ≠ 0 → table.entry button &&& word = table.entry button

/-- Another table folds each entry of this one as this one does. -/
def Agrees (table candidate : ButtonTable) : Prop :=
  ∀ button, candidate.generic (table.entry button) = table.generic (table.entry button)

/-- The table without the bits of a word in the entry of one position. -/
def without (table : ButtonTable) (button : PadButton) (word : UInt32) : ButtonTable where
  entry other :=
    if other = button then table.entry other ^^^ (table.entry other &&& word) else table.entry other

variable {table candidate : ButtonTable} {word : UInt32}

/-- A generic word tells which positions are pressed. -/
theorem generic_eq_iff :
    candidate.generic word = table.generic word ↔ candidate.presses word = table.presses word := by
  constructor
  · intro same
    funext button
    rw [← testBit_generic, ← testBit_generic, same]
  · intro same
    rw [generic, generic, same]

theorem generic_under_iff :
    candidate.generic word &&& table.generic word = candidate.generic word ↔
      ∀ button, candidate.presses word button = true → table.presses word button = true := by
  rw [Word.and_eq_left_iff]
  constructor
  · intro under button pressed
    rw [← testBit_generic] at pressed ⊢
    exact under button.index pressed
  · intro under i set
    rw [generic, PadButton.testBit_gather] at set ⊢
    obtain ⟨button, pressed, here⟩ := set
    exact ⟨button, under button pressed, here⟩

/-- What a mapped word presses is pressed by an entry that the word meets. -/
theorem exists_entry_of_presses (mapped : word &&& table.union = word) {other : ButtonTable}
    {button : PadButton} (pressed : other.presses word button = true) :
    ∃ held, table.presses word held = true ∧ other.presses (table.entry held) button = true := by
  obtain ⟨i, entry, set⟩ := (other.presses_iff word button).mp pressed
  obtain ⟨held, has⟩ := (table.testBit_union i).mp (Word.and_eq_left_iff.mp mapped i set)
  exact ⟨held, (table.presses_iff word held).mpr ⟨i, has, set⟩,
    (other.presses_iff _ button).mpr ⟨i, entry, has⟩⟩

/-- A word that holds its entries as a whole presses what they press. -/
theorem presses_iff_of_holdsWhole (mapped : word &&& table.union = word) (whole : table.HoldsWhole word)
    (other : ButtonTable) (button : PadButton) :
    other.presses word button = true ↔
      ∃ held, table.presses word held = true ∧ other.presses (table.entry held) button = true := by
  refine ⟨exists_entry_of_presses mapped, ?_⟩
  rintro ⟨held, meets, pressed⟩
  obtain ⟨i, entry, has⟩ := (other.presses_iff _ button).mp pressed
  have inside := Word.and_eq_left_iff.mp (whole held (bne_iff_ne.mp meets)) i has
  exact (other.presses_iff word button).mpr ⟨i, entry, inside⟩

theorem generic_eq_of_holdsWhole (agrees : table.Agrees candidate) (mapped : word &&& table.union = word)
    (whole : table.HoldsWhole word) : candidate.generic word = table.generic word := by
  refine generic_eq_iff.mpr (funext fun button => Bool.eq_iff_iff.mpr ?_)
  rw [presses_iff_of_holdsWhole mapped whole, presses_iff_of_holdsWhole mapped whole]
  refine exists_congr fun held => and_congr_right fun _ => ?_
  rw [generic_eq_iff.mp (agrees held)]

theorem holdsWhole_union : table.HoldsWhole table.union := fun button _ => table.entry_under_union button

theorem holdsWhole_of_singleBits (single : table.HasSingleBits) (word : UInt32) : table.HoldsWhole word := by
  intro button meets
  obtain ⟨i, entry, set⟩ := Word.and_ne_zero_iff.mp meets
  obtain none | ⟨place, power⟩ := single button
  · rw [none, UInt32.toNat_zero, Nat.zero_testBit] at entry
    cases entry
  · have only (j : Nat) (has : (table.entry button).toNat.testBit j = true) : j = place := by
      rw [power, Nat.testBit_two_pow, decide_eq_true_eq] at has
      exact has.symm
    refine Word.and_eq_left_iff.mpr fun j has => ?_
    rw [only j has, ← only i entry]
    exact set

/-- Where no two entries share a bit, a table that agrees with another on its entries presses nothing that
the other does not press. -/
theorem generic_under_of_agrees (disjoint : table.IsDisjoint) (agrees : table.Agrees candidate)
    (mapped : word &&& table.union = word) :
    candidate.generic word &&& table.generic word = candidate.generic word := by
  refine generic_under_iff.mpr fun button pressed => ?_
  obtain ⟨held, meets, shown⟩ := exists_entry_of_presses mapped pressed
  rw [generic_eq_iff.mp (agrees held)] at shown
  have same : button = held := by
    apply Decidable.byContradiction
    intro apart
    exact bne_iff_ne.mp shown (disjoint button held apart)
  rwa [same]

section

variable {button other : PadButton}

theorem entry_without_of_ne (apart : other ≠ button) :
    (table.without button word).entry other = table.entry other := if_neg apart

theorem testBit_without (table : ButtonTable) (button : PadButton) (word : UInt32) (i : Nat) :
    ((table.without button word).entry button).toNat.testBit i =
      ((table.entry button).toNat.testBit i && !word.toNat.testBit i) := by
  have left : (table.without button word).entry button =
      table.entry button ^^^ (table.entry button &&& word) := if_pos rfl
  rw [left, UInt32.toNat_xor, Nat.testBit_xor, UInt32.toNat_and, Nat.testBit_and]
  cases (table.entry button).toNat.testBit i <;> cases word.toNat.testBit i <;> rfl

/-- What is left out presses nothing. -/
theorem presses_without : (table.without button word).presses word button = false := by
  rw [← Bool.not_eq_true, presses_iff]
  rintro ⟨i, left, set⟩
  rw [testBit_without, set, Bool.not_true, Bool.and_false] at left
  cases left

/-- An entry still presses its position if some of it is left. -/
theorem presses_without_entry (part : table.entry button &&& word ≠ table.entry button) :
    (table.without button word).presses (table.entry button) button = true := by
  apply Classical.byContradiction
  intro released
  refine part (Word.and_eq_left_iff.mpr fun i has => ?_)
  cases set : word.toNat.testBit i with
  | true => rfl
  | false =>
    refine absurd ((presses_iff _ _ _).mpr ⟨i, ?_, has⟩) released
    rw [testBit_without, has, set]
    rfl

/-- A word without bits of the entry does not press its position, whatever is left of the entry. -/
theorem presses_without_of_apart {beside : UInt32} (apart : table.entry button &&& beside = 0) :
    (table.without button word).presses beside button = false := by
  rw [← Bool.not_eq_true, presses_iff]
  rintro ⟨i, left, set⟩
  rw [testBit_without, Bool.and_eq_true] at left
  exact Word.and_ne_zero_iff.mpr ⟨i, left.1, set⟩ apart

/-- As long as something is left of an entry, no entry as a whole shows what has been left out. -/
theorem agrees_without (disjoint : table.IsDisjoint)
    (part : table.entry button &&& word ≠ table.entry button) : table.Agrees (table.without button word) := by
  intro held
  refine generic_eq_iff.mpr (funext fun other => ?_)
  by_cases here : other = button
  · subst here
    by_cases own : other = held
    · subst own
      have some : table.entry other ≠ 0 := fun none => part (by rw [none, UInt32.zero_and])
      rw [presses_without_entry part, presses, UInt32.and_self]
      exact (bne_iff_ne.mpr some).symm
    · have apart := disjoint other held own
      rw [presses_without_of_apart apart, presses, apart]
      rfl
  · rw [presses, entry_without_of_ne here, presses]

end

/-- Where no two entries share a bit, the tables that agree on the entries fold a mapped word alike exactly
if it holds each entry that it meets as a whole. -/
theorem fixes_iff (disjoint : table.IsDisjoint) (mapped : word &&& table.union = word) :
    (∀ candidate, table.Agrees candidate → candidate.generic word = table.generic word) ↔
      table.HoldsWhole word := by
  constructor
  · intro fixed button meets
    apply Decidable.byContradiction
    intro part
    have same := generic_eq_iff.mp (fixed _ (agrees_without disjoint part))
    have pressed : table.presses word button = true := bne_iff_ne.mpr meets
    rw [← same, presses_without] at pressed
    cases pressed
  · exact fun whole candidate agrees => generic_eq_of_holdsWhole agrees mapped whole

end ButtonTable

end PadBench
