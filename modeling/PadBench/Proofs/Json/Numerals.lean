import PadBench.Json.Numeral

/-!
Every whole number of 64 bits survives its numeral (`scan?_intChars`).
-/
namespace PadBench.Json

/-- What may follow a value in a compact text. -/
inductive Ends : List Char → Prop
  | text : Ends []
  | comma (rest : List Char) : Ends (',' :: rest)
  | array (rest : List Char) : Ends (']' :: rest)
  | object (rest : List Char) : Ends ('\x7d' :: rest)

namespace Numeral

/-- The numbers that are kept whole. -/
def InRange (value : Int) : Prop := leastInt ≤ value ∧ value ≤ greatestInt

theorem splitDigits_append {digits rest : List Char} (all : ∀ c ∈ digits, c.isDigit = true)
    (ends : Ends rest) : splitDigits (digits ++ rest) = (digits, rest) := by
  have none_left : rest.takeWhile Char.isDigit = [] ∧ rest.dropWhile Char.isDigit = rest := by
    cases ends <;> exact ⟨rfl, rfl⟩
  rw [splitDigits, List.takeWhile_append_of_pos all, List.dropWhile_append_of_pos all, none_left.1,
    none_left.2, List.append_nil]

theorem digits_isDigit (number : Nat) : ∀ c ∈ Nat.toDigits 10 number, c.isDigit = true :=
  fun _ member => Nat.isDigit_of_mem_toDigits (by decide) (by decide) member

/-- The numeral of a positive number does not start with the digit 0. -/
theorem toDigits_first {number : Nat} (positive : 0 < number) :
    ∃ first rest, Nat.toDigits 10 number = first :: rest ∧ first ≠ '0' := by
  induction number using Nat.strongRecOn with
  | ind number ih =>
    by_cases one_digit : number < 10
    · refine ⟨number.digitChar, [], Nat.toDigits_of_lt_base one_digit, ?_⟩
      have all : ∀ digit < 10, 0 < digit → digit.digitChar ≠ '0' := by decide
      exact all number one_digit positive
    · obtain ⟨first, rest, digits, nonzero⟩ := ih (number / 10) (by omega) (by omega)
      refine ⟨first, rest ++ [(number % 10).digitChar], ?_, nonzero⟩
      rw [Nat.toDigits_of_base_le (by decide) (by omega), digits, List.cons_append]

theorem isWhole_toDigits (number : Nat) : isWhole (Nat.toDigits 10 number) = true := by
  by_cases positive : 0 < number
  · obtain ⟨first, rest, digits, nonzero⟩ := toDigits_first positive
    rw [digits, isWhole]
    · exact bne_iff_ne.mpr nonzero
    · intro zero
      exact absurd zero nonzero
  · obtain rfl : number = 0 := by omega
    rfl

/-- The first character of a numeral is a digit. -/
theorem toDigits_cons (number : Nat) :
    ∃ first rest, Nat.toDigits 10 number = first :: rest ∧ first.isDigit = true := by
  obtain ⟨first, rest, digits⟩ := List.exists_cons_of_ne_nil (Nat.toDigits_ne_nil (n := number))
  exact ⟨first, rest, digits, digits_isDigit number first (by rw [digits]; exact List.mem_cons_self)⟩

theorem fraction?_of_ends {rest : List Char} (ends : Ends rest) : fraction? rest = some ([], rest) := by
  cases ends <;> rfl

theorem exponent?_of_ends {rest : List Char} (ends : Ends rest) :
    exponent? rest = some (none, rest) := by
  cases ends <;> rfl

theorem int?_natural {size : Nat} (inRange : InRange size) :
    int? false (Nat.toDigits 10 size) = some (size : Int) := by
  simp only [int?, Nat.ofDigitChars_ten_toDigits, Bool.false_and, Bool.false_eq_true, if_false]
  exact if_pos inRange

theorem int?_negative {size : Nat} (nonzero : size ≠ 0) (inRange : InRange (-(size : Int))) :
    int? true (Nat.toDigits 10 size) = some (-(size : Int)) := by
  have unsigned : ((size : Int) == 0) = false := by
    rw [beq_eq_false_iff_ne]
    omega
  simp only [int?, Nat.ofDigitChars_ten_toDigits, Bool.true_and, unsigned, Bool.false_eq_true,
    if_false, if_true]
  exact if_pos inRange

/-- A whole number is read back from its numeral, whatever may follow. -/
theorem scan?_intChars {value : Int} (inRange : InRange value) {rest : List Char} (ends : Ends rest) :
    scan? (intChars value ++ rest) = some (.int value, rest) := by
  have digits := splitDigits_append (digits_isDigit value.natAbs) ends
  by_cases negative : value < 0
  · have same : -(value.natAbs : Int) = value := by omega
    have nonzero : value.natAbs ≠ 0 := by omega
    have number := int?_negative nonzero (same.symm ▸ inRange)
    simp only [intChars, negative, if_true, List.cons_append, scan?, digits, isWhole_toDigits,
      fraction?_of_ends ends, exponent?_of_ends ends, number, same, Bool.not_true, Bool.false_eq_true,
      if_false, Option.bind_eq_bind, Option.bind_some]
  · have same : (value.natAbs : Int) = value := by omega
    have number := int?_natural (same.symm ▸ inRange)
    obtain ⟨first, others, shape, isDigit⟩ := toDigits_cons value.natAbs
    have unsigned : first ≠ '-' := by
      rintro rfl
      cases isDigit
    have whole := isWhole_toDigits value.natAbs
    rw [shape] at digits number whole
    rw [List.cons_append] at digits
    rw [intChars, if_neg negative, shape, List.cons_append]
    simp [scan?, unsigned, digits, whole, fraction?_of_ends ends, exponent?_of_ends ends, number, same]

end Numeral

end PadBench.Json
