import PadBench.Proofs.Text.Utf8

/-!
The order of texts and of their bytes.

* `encodeChar_lt`: the bytes of a lesser character are lesser, whatever follows either;
* `lt_iff_encode_lt`: strings are in the order of their bytes.
-/
namespace PadBench.Text.Utf8

section

variable {code other position : Nat} {bytes more : List UInt8}

theorem first_lt (upTo : code ≤ other) (fits : other < 0x100) (next : code = other → bytes < more) :
    UInt8.ofNat code :: bytes < UInt8.ofNat other :: more := by
  rw [List.cons_lt_cons_iff, UInt8.lt_iff_toNat_lt, UInt8.toNat_ofNat', UInt8.toNat_ofNat']
  rcases Nat.lt_or_eq_of_le upTo with before | same
  · left
    omega
  · right
    exact ⟨congrArg _ same, next same⟩

/-- Continuations of characters whose earlier bits are the same. -/
theorem continuation_lt (less : code < other) (same : code / 2 ^ (position + 6) = other / 2 ^ (position + 6))
    (next : code / 2 ^ position = other / 2 ^ position → bytes < more) :
    continuation code position :: bytes < continuation other position :: more := by
  have upTo : code / 2 ^ position ≤ other / 2 ^ position := Nat.div_le_div_right (Nat.le_of_lt less)
  rw [Nat.pow_add, ← Nat.div_div_eq_div_mul, ← Nat.div_div_eq_div_mul] at same
  rw [continuation, continuation, Nat.shiftRight_eq_div_pow, Nat.shiftRight_eq_div_pow]
  apply first_lt
  · omega
  · omega
  · intro here
    apply next
    omega

/-- The last continuation, on which the characters differ if they do not before. -/
theorem last_lt (less : code < other) (same : code / 2 ^ 6 = other / 2 ^ 6) :
    continuation code 0 :: bytes < continuation other 0 :: more := by
  apply continuation_lt less same
  intro whole
  omega

end

/-- A lesser character has lesser bytes, whatever follows either. -/
theorem encodeChar_lt {c d : Char} (less : c.toNat < d.toNat) (rest more : List UInt8) :
    encodeChar c ++ rest < encodeChar d ++ more := by
  have bound := toNat_lt d
  generalize shape : encodeChar d = bytes
  simp only [encodeChar, Nat.shiftRight_eq_div_pow] at shape ⊢
  -- In sequences of different lengths the first bytes decide, in those of one length the first bits
  -- that differ.
  split
  · split at shape
    · subst shape
      exact first_lt (Nat.le_of_lt less) (by omega) (by omega)
    · split at shape
      · subst shape
        exact first_lt (by omega) (by omega) (by omega)
      · split at shape <;> subst shape <;> exact first_lt (by omega) (by omega) (by omega)
  split
  · rw [if_neg (by omega)] at shape
    split at shape
    · subst shape
      exact first_lt (by omega) (by omega) fun same => last_lt less (by omega)
    · split at shape <;> subst shape <;> exact first_lt (by omega) (by omega) (by omega)
  split
  · rw [if_neg (by omega), if_neg (by omega)] at shape
    split at shape
    · subst shape
      refine first_lt (by omega) (by omega) fun same => ?_
      exact continuation_lt less (by omega) (last_lt less)
    · subst shape
      exact first_lt (by omega) (by omega) (by omega)
  · rw [if_neg (by omega), if_neg (by omega), if_neg (by omega)] at shape
    subst shape
    refine first_lt (by omega) (by omega) fun same => ?_
    exact continuation_lt less (by omega) fun same => continuation_lt less same (last_lt less)

theorem encode_cons (c : Char) (text : List Char) : encode (c :: text) = encodeChar c ++ encode text :=
  List.flatMap_cons

theorem encode_lt {text other : List Char} (less : text < other) : encode text < encode other := by
  induction text generalizing other with
  | nil =>
    cases other with
    | nil => exact absurd less (List.lt_irrefl [])
    | cons d other =>
      obtain ⟨byte, bytes, shape⟩ : ∃ byte bytes, encodeChar d = byte :: bytes := by
        rw [encodeChar_eq]
        exact List.exists_cons_of_ne_nil (String.utf8EncodeChar_ne_nil)
      rw [encode_cons, shape]
      exact List.nil_lt_cons byte _
  | cons c text ih =>
    cases other with
    | nil => exact absurd less (List.not_lt_nil _)
    | cons d other =>
      rw [encode_cons, encode_cons]
      rcases List.cons_lt_cons_iff.mp less with before | ⟨rfl, after⟩
      · exact encodeChar_lt before (encode text) (encode other)
      · exact List.append_left_lt (ih after)

/-- Strings are in the order of their bytes. -/
theorem lt_iff_encode_lt {text other : String} :
    text < other ↔ encode text.toList < encode other.toList := by
  constructor
  · exact encode_lt
  · intro less
    apply Classical.byContradiction
    intro upTo
    by_cases same : text = other
    · subst same
      exact List.lt_irrefl _ less
    · have before : other < text := by
        apply Classical.byContradiction
        intro downTo
        exact same (String.le_antisymm (String.not_lt.mp downTo) (String.not_lt.mp upTo))
      exact List.lt_asymm less (encode_lt before)

end PadBench.Text.Utf8
