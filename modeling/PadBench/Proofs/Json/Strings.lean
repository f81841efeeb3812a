import PadBench.Json.Text

/-!
Every text survives its quotes: the scanner reads back what escaping wrote (`scan?_quoted`).
-/
namespace PadBench.Json.Text

theorem lowerHex_digits : ∀ number < 0x20, ∃ a b c d,
    (PadBench.Text.lowerHex 4 number).toList = [a, b, c, d] ∧ fourDigits? a b c d = some number := by
  intro number control
  have all : ∀ number < 0x20,
      let digit (position : Nat) := (PadBench.Text.lowerHex 4 number).toList.getD position '0'
      (PadBench.Text.lowerHex 4 number).toList = [digit 0, digit 1, digit 2, digit 3] ∧
        fourDigits? (digit 0) (digit 1) (digit 2) (digit 3) = some number := by decide
  exact ⟨_, _, _, _, all number control⟩

/-- An escape by number of a control. -/
theorem numbered?_control {c : Char} (control : c.toNat < 0x20) (rest : List Char) :
    numbered? ((PadBench.Text.lowerHex 4 c.toNat).toList ++ rest) = some (c, rest) := by
  obtain ⟨a, b, d, e, digits, number⟩ := lowerHex_digits c.toNat control
  have low : isLowSurrogate c.toNat = false := by simp only [isLowSurrogate]; grind
  have high : isHighSurrogate c.toNat = false := by simp only [isHighSurrogate]; grind
  rw [digits]
  simp only [List.cons_append, List.nil_append, numbered?, number, Option.bind_eq_bind,
    Option.bind_some, low, high, Bool.false_eq_true, if_false, Char.ofNat_toNat]

/-- The letter of a short escape stands for the character it is the escape of, and is not the one that
announces a number. -/
theorem unescape?_shortEscape? {c letter : Char} (short : shortEscape? c = some letter) :
    unescape? letter = some c ∧ letter ≠ 'u' := by
  unfold shortEscape? at short
  split at short <;> cases short <;> exact ⟨rfl, by decide⟩

theorem escaped_ne_nil (c : Char) : escaped c ≠ [] := by
  unfold escaped
  split
  · exact List.cons_ne_nil _ _
  · split <;> exact List.cons_ne_nil _ _

/-- Reading an escaped character takes one step. -/
theorem scan?_escaped (done : List Char) (fuel : Nat) (c : Char) (rest : List Char) :
    scan? done (fuel + 1) (escaped c ++ rest) = scan? (c :: done) fuel rest := by
  unfold escaped
  split
  · rename_i letter short
    obtain ⟨back, notNumber⟩ := unescape?_shortEscape? short
    simp only [List.cons_append, List.nil_append]
    rw [scan?]
    · simp only [back]
    · exact notNumber
  · rename_i long
    have quote : c ≠ '"' := by rintro rfl; cases long
    have backslash : c ≠ '\\' := by rintro rfl; cases long
    split
    · rename_i control
      simp only [List.cons_append]
      rw [scan?, numbered?_control control]
    · rename_i plain
      simp only [List.cons_append, List.nil_append]
      rw [scan?]
      · simp only [backslash, plain, or_self, if_false]
      · exact quote
      · intro _ isBackslash
        exact absurd isBackslash backslash
      · intro _ _ isBackslash
        exact absurd isBackslash backslash

/-- A quoted text, after its opening quote, is read back whole. -/
theorem scan?_quoted (done text rest : List Char) {fuel : Nat} (enough : text.length < fuel) :
    scan? done fuel (text.flatMap escaped ++ '"' :: rest) = some (done.reverse ++ text, rest) := by
  induction text generalizing done fuel with
  | nil =>
    obtain ⟨fuel, rfl⟩ := Nat.exists_eq_add_of_lt enough
    simp [scan?]
  | cons c text ih =>
    obtain ⟨fuel, rfl⟩ : ∃ less, fuel = less + 1 := ⟨fuel - 1, by omega⟩
    rw [List.flatMap_cons, List.append_assoc, scan?_escaped, ih _ (Nat.lt_of_succ_lt_succ enough)]
    simp

/-- Escaping shortens nothing. -/
theorem length_le_flatMap_escaped (text : List Char) :
    text.length ≤ (text.flatMap escaped).length := by
  induction text with
  | nil => exact Nat.le_refl _
  | cons c text ih =>
    have some := List.length_pos_iff.mpr (escaped_ne_nil c)
    rw [List.flatMap_cons, List.length_append, List.length_cons]
    omega

end PadBench.Json.Text
