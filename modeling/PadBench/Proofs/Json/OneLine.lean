import PadBench.Json.Printing
import PadBench.Proofs.Json.Numerals
import PadBench.Proofs.Json.Strings

/-!
The compact text of a value is one line, whatever its strings and keys hold (`newline_not_mem_chars`).
-/
namespace PadBench.Json

/-- A line feed is escaped by its letter, and every other control by its number. -/
theorem Text.newline_not_mem_escaped (c : Char) : '\n' ∉ Text.escaped c := by
  unfold Text.escaped
  split
  · rename_i letter short
    unfold Text.shortEscape? at short
    split at short <;> cases short <;> decide
  · rename_i long
    split
    · rename_i control
      have digits : ∀ number < 0x20, '\n' ∉ (PadBench.Text.lowerHex 4 number).toList := by decide
      simp only [List.mem_cons, not_or]
      exact ⟨by decide, by decide, digits c.toNat control⟩
    · rename_i plain
      rw [List.mem_singleton]
      rintro rfl
      exact plain (by decide)

theorem Text.newline_not_mem_quoted (text : List Char) : '\n' ∉ Text.quoted text := by
  simp only [Text.quoted, List.cons_append, List.mem_cons, List.mem_append, List.mem_flatMap, List.mem_nil_iff,
    or_false, not_or, not_exists, not_and]
  exact ⟨by decide, fun c _ => Text.newline_not_mem_escaped c, by decide⟩

namespace Numeral

theorem newline_not_mem_toDigits (number : Nat) : '\n' ∉ Nat.toDigits 10 number :=
  fun member => absurd (digits_isDigit number _ member) (by decide)

theorem newline_not_mem_intChars (value : Int) : '\n' ∉ intChars value := by
  rw [intChars]
  split
  · exact List.not_mem_cons_of_ne_of_not_mem (by decide) (newline_not_mem_toDigits _)
  · exact newline_not_mem_toDigits _

theorem newline_not_mem_decimalChars (value : Decimal) : '\n' ∉ decimalChars value := by
  have digits := newline_not_mem_toDigits value.digits
  have front (count : Nat) : '\n' ∉ (Nat.toDigits 10 value.digits).take count :=
    fun member => digits (List.mem_of_mem_take member)
  have back (count : Nat) : '\n' ∉ (Nat.toDigits 10 value.digits).drop count :=
    fun member => digits (List.mem_of_mem_drop member)
  have fraction : '\n' ∉ (Nat.toDigits 10 value.digits).tail :=
    fun member => digits (List.mem_of_mem_tail member)
  simp only [decimalChars]
  split
  · simp [digits]
  · split
    · simp [front, back]
    · split
      · simp [digits]
      · split <;> simp [front, fraction, newline_not_mem_intChars]

theorem newline_not_mem_realChars (value : BinaryFloat) : '\n' ∉ realChars value := by
  cases value with
  | finite negative mantissa exponent =>
    rw [realChars, List.mem_append, not_or]
    refine ⟨by cases negative <;> decide, ?_⟩
    split
    · decide
    · exact newline_not_mem_decimalChars _
  | _ => simp [realChars]

end Numeral

mutual

/-- A compact text is one line. -/
theorem newline_not_mem_chars : ∀ value : Json, '\n' ∉ value.chars
  | .null => by decide
  | .bool true => by decide
  | .bool false => by decide
  | .int value => Numeral.newline_not_mem_intChars value
  | .real value => Numeral.newline_not_mem_realChars value
  | .str text => Text.newline_not_mem_quoted text.toList
  | .arr items => by simp [chars, newline_not_mem_itemChars items]
  | .obj members => by simp [chars, newline_not_mem_memberChars members]

theorem newline_not_mem_itemChars : ∀ items : List Json, '\n' ∉ itemChars items
  | [] => List.not_mem_nil
  | [item] => newline_not_mem_chars item
  | item :: next :: rest => by
    simp [itemChars, newline_not_mem_chars item, newline_not_mem_itemChars (next :: rest)]

theorem newline_not_mem_memberChars : ∀ members : List (String × Json), '\n' ∉ memberChars members
  | [] => List.not_mem_nil
  | [(key, value)] => by
    simp [memberChars, Text.newline_not_mem_quoted, newline_not_mem_chars value]
  | (key, value) :: next :: rest => by
    simp [memberChars, Text.newline_not_mem_quoted, newline_not_mem_chars value,
      newline_not_mem_memberChars (next :: rest)]

end

end PadBench.Json
