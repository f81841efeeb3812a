import Mathlib.Algebra.Group.Nat.Defs
import PadBench.Text.Utf8

/-!
UTF-8 read back.

* `encode_eq`: a text has the bytes of its string;
* `decode_encode`: every text is read back from its bytes;
* `encode_of_decode`: bytes that are read are those of one text;
* `isValidUTF8_iff`: the bytes of texts are those that strings call valid;
* `zero_mem_encode_iff`: only a NUL has the byte 0.
-/
namespace PadBench.Text.Utf8

theorem toNat_lt (c : Char) : c.toNat < 0x110000 := by
  rcases c.valid with below | ⟨_, above⟩
  · exact Nat.lt_trans below (by decide)
  · exact above

/-- No character is a surrogate. -/
theorem not_surrogate (c : Char) : c.toNat < 0xD800 ∨ 0xDFFF < c.toNat := by
  rcases c.valid with below | ⟨above, _⟩
  · exact .inl below
  · exact .inr above

/-- A character has the bytes that strings have for it. -/
theorem encodeChar_eq (c : Char) : encodeChar c = String.utf8EncodeChar c := by
  have bound := toNat_lt c
  have same : c.val.toNat = c.toNat := rfl
  simp only [encodeChar, String.utf8EncodeChar, continuation, same, Nat.shiftRight_eq_div_pow]
  split
  · rw [if_pos (by omega)]
  split
  · rw [if_neg (by omega), if_pos (by omega), List.cons_eq_cons, List.cons_eq_cons]
    refine ⟨congrArg _ ?_, congrArg _ ?_, rfl⟩ <;> omega
  split
  · rw [if_neg (by omega), if_neg (by omega), if_pos (by omega), List.cons_eq_cons,
      List.cons_eq_cons, List.cons_eq_cons]
    refine ⟨congrArg _ ?_, congrArg _ ?_, congrArg _ ?_, rfl⟩ <;> omega
  · rw [if_neg (by omega), if_neg (by omega), if_neg (by omega), List.cons_eq_cons,
      List.cons_eq_cons, List.cons_eq_cons, List.cons_eq_cons]
    refine ⟨congrArg _ ?_, congrArg _ ?_, congrArg _ ?_, congrArg _ ?_, rfl⟩ <;> omega

/-- A text has the bytes of its string. -/
theorem encode_eq (text : String) : encode text.toList = text.toByteArray.data.toList := by
  have bytes : text.toByteArray = text.toList.utf8Encode := by
    rw [← String.toByteArray_ofList, String.ofList_toList]
  rw [bytes, List.utf8Encode, List.toList_data_toByteArray, encode]
  exact congrArg (text.toList.flatMap ·) (funext encodeChar_eq)

theorem length_encode (text : String) : (encode text.toList).length = text.utf8ByteSize := by
  rw [encode_eq, Array.length_toList]
  rfl

section

variable {first second third fourth : UInt8} {done : List Char} {index : Nat} {rest : List UInt8}

theorem decodeFrom_one (high : first.toNat < 0x80) :
    decodeFrom done index (first :: rest) =
      decodeFrom (Char.ofNat first.toNat :: done) (index + 1) rest := by
  have length : sequenceLength? first = some 1 := by
    simp only [sequenceLength?, UInt8.lt_iff_toNat_lt, UInt8.reduceToNat, if_pos high]
  simp only [decodeFrom, length]

theorem decodeFrom_two (least : 0xC2 ≤ first.toNat) (high : first.toNat < 0xE0)
    (fits : isSecond first second = true) :
    decodeFrom done index (first :: second :: rest) =
      decodeFrom (Char.ofNat (first.toNat % 32 * 64 + low second) :: done) (index + 2) rest := by
  have length : sequenceLength? first = some 2 := by
    simp only [sequenceLength?, UInt8.lt_iff_toNat_lt, UInt8.reduceToNat]
    rw [if_neg (by omega), if_neg (by omega), if_pos high]
  simp only [decodeFrom, length, fits, Bool.not_true, Bool.false_eq_true, if_false, if_true]

theorem decodeFrom_three (least : 0xE0 ≤ first.toNat) (high : first.toNat < 0xF0)
    (fits : isSecond first second = true) (continued : isContinuation third = true) :
    decodeFrom done index (first :: second :: third :: rest) =
      decodeFrom (Char.ofNat ((first.toNat % 16 * 64 + low second) * 64 + low third) :: done)
        (index + 3) rest := by
  have length : sequenceLength? first = some 3 := by
    simp only [sequenceLength?, UInt8.lt_iff_toNat_lt, UInt8.reduceToNat]
    rw [if_neg (by omega), if_neg (by omega), if_neg (by omega), if_pos high]
  simp only [decodeFrom, length, fits, continued, Bool.not_true, Bool.false_eq_true, if_false, if_true,
    Nat.reduceEqDiff]

theorem decodeFrom_four (least : 0xF0 ≤ first.toNat) (high : first.toNat < 0xF5)
    (fits : isSecond first second = true) (continued : isContinuation third = true)
    (ended : isContinuation fourth = true) :
    decodeFrom done index (first :: second :: third :: fourth :: rest) =
      decodeFrom (Char.ofNat
        (((first.toNat % 8 * 64 + low second) * 64 + low third) * 64 + low fourth) :: done)
        (index + 4) rest := by
  have length : sequenceLength? first = some 4 := by
    simp only [sequenceLength?, UInt8.lt_iff_toNat_lt, UInt8.reduceToNat]
    rw [if_neg (by omega), if_neg (by omega), if_neg (by omega), if_neg (by omega), if_pos high]
  simp only [decodeFrom, length, fits, continued, ended, Bool.not_true, Bool.false_eq_true, if_false,
    Nat.reduceEqDiff]

end

/-- Six bits of a character make a continuation. -/
theorem toNat_continuation (code position : Nat) :
    (continuation code position).toNat = 0x80 + code / 2 ^ position % 64 := by
  rw [continuation, UInt8.toNat_ofNat', Nat.shiftRight_eq_div_pow]
  omega

theorem isContinuation_continuation (code position : Nat) :
    isContinuation (continuation code position) = true := by
  simp only [isContinuation, Bool.and_eq_true, decide_eq_true_eq, UInt8.le_iff_toNat_le,
    UInt8.lt_iff_toNat_lt, toNat_continuation, UInt8.reduceToNat]
  omega

theorem low_continuation (code position : Nat) :
    low (continuation code position) = code / 2 ^ position % 64 := by
  rw [low, toNat_continuation]
  omega

/-- The second byte of a character fits its first. -/
theorem isSecond_continuation {first : UInt8} {code position : Nat}
    (longer : first.toNat = 0xE0 → 32 ≤ code / 2 ^ position % 64)
    (surrogate : first.toNat = 0xED → code / 2 ^ position % 64 < 32)
    (four : first.toNat = 0xF0 → 16 ≤ code / 2 ^ position % 64)
    (last : first.toNat = 0xF4 → code / 2 ^ position % 64 < 16) :
    isSecond first (continuation code position) = true := by
  simp only [isSecond, isContinuation_continuation, Bool.and_eq_true, Bool.or_eq_true, bne_iff_ne,
    decide_eq_true_eq, ne_eq, ← UInt8.toNat_inj, UInt8.le_iff_toNat_le, UInt8.lt_iff_toNat_lt,
    toNat_continuation, UInt8.reduceToNat, true_and]
  omega

/-- A character is read back from its bytes, whatever follows them. -/
theorem decodeFrom_encodeChar (done : List Char) (index : Nat) (c : Char) (rest : List UInt8) :
    decodeFrom done index (encodeChar c ++ rest) =
      decodeFrom (c :: done) (index + (encodeChar c).length) rest := by
  have bound := toNat_lt c
  have proper := not_surrogate c
  obtain ⟨code, same⟩ : ∃ code, code = c.toNat := ⟨_, rfl⟩
  have back {number : Nat} (equal : number = code) : Char.ofNat number = c := by
    rw [equal, same, Char.ofNat_toNat]
  rw [← same] at bound proper
  simp only [encodeChar, ← same, Nat.shiftRight_eq_div_pow]
  split
  · have first : (UInt8.ofNat code).toNat = code := by
      rw [UInt8.toNat_ofNat']
      omega
    rw [List.singleton_append, decodeFrom_one (by omega), back first]
    rfl
  split
  · have first : (UInt8.ofNat (0xC0 + code / 2 ^ 6)).toNat = 0xC0 + code / 64 := by
      rw [UInt8.toNat_ofNat']
      omega
    rw [List.cons_append, List.singleton_append, decodeFrom_two (by omega) (by omega)
      (isSecond_continuation (by omega) (by omega) (by omega) (by omega)), back]
    · rfl
    · rw [first, low_continuation]
      omega
  split
  · have first : (UInt8.ofNat (0xE0 + code / 2 ^ 12)).toNat = 0xE0 + code / 4096 := by
      rw [UInt8.toNat_ofNat']
      omega
    rw [List.cons_append, List.cons_append, List.singleton_append, decodeFrom_three (by omega)
      (by omega) (isSecond_continuation (by omega) (by omega) (by omega) (by omega))
      (isContinuation_continuation _ _), back]
    · rfl
    · rw [first, low_continuation, low_continuation]
      omega
  · have first : (UInt8.ofNat (0xF0 + code / 2 ^ 18)).toNat = 0xF0 + code / 262144 := by
      rw [UInt8.toNat_ofNat']
      omega
    rw [List.cons_append, List.cons_append, List.cons_append, List.singleton_append,
      decodeFrom_four (by omega) (by omega)
      (isSecond_continuation (by omega) (by omega) (by omega) (by omega))
      (isContinuation_continuation _ _) (isContinuation_continuation _ _), back]
    · rfl
    · rw [first, low_continuation, low_continuation, low_continuation]
      omega

theorem decode_encode (text : List Char) : decode (encode text) = .ok text := by
  suffices each : ∀ done index, decodeFrom done index (encode text) = .ok (done.reverse ++ text) from
    each [] 0
  induction text with
  | nil =>
    intro done index
    rw [List.append_nil]
    rfl
  | cons c text ih =>
    intro done index
    rw [encode, List.flatMap_cons, decodeFrom_encodeChar]
    rw [encode] at ih
    rw [ih, List.reverse_cons, List.append_assoc]
    rfl

theorem toNat_ofNat {code : Nat} (proper : code < 0xD800 ∨ 0xDFFF < code ∧ code < 0x110000) :
    (Char.ofNat code).toNat = code := by
  rw [Char.ofNat, dif_pos proper]
  rfl

theorem ofNat_eq (byte : UInt8) {code : Nat} (same : byte.toNat = code) : UInt8.ofNat code = byte := by
  rw [← same, UInt8.ofNat_toNat]

theorem toNat_of_isContinuation {byte : UInt8} (continued : isContinuation byte = true) :
    byte.toNat = 0x80 + low byte := by
  simp only [isContinuation, Bool.and_eq_true, decide_eq_true_eq, UInt8.le_iff_toNat_le,
    UInt8.lt_iff_toNat_lt, UInt8.reduceToNat] at continued
  rw [low]
  omega

/-- A continuation is the byte of the six bits that are read from it. -/
theorem continuation_eq {byte : UInt8} (continued : isContinuation byte = true) {code position : Nat}
    (bits : code / 2 ^ position % 64 = low byte) : continuation code position = byte := by
  rw [← UInt8.toNat_inj, toNat_continuation, bits, toNat_of_isContinuation continued]

/-- What the second byte of a sequence has to be beside a continuation. -/
theorem isSecond_bounds {first second : UInt8} (fits : isSecond first second = true) :
    isContinuation second = true ∧ (first.toNat = 0xE0 → 32 ≤ low second) ∧
      (first.toNat = 0xED → low second < 32) ∧ (first.toNat = 0xF0 → 16 ≤ low second) ∧
      (first.toNat = 0xF4 → low second < 16) := by
  simp only [isSecond, Bool.and_eq_true, Bool.or_eq_true, bne_iff_ne, decide_eq_true_eq, ne_eq,
    ← UInt8.toNat_inj, UInt8.le_iff_toNat_le, UInt8.lt_iff_toNat_lt, UInt8.reduceToNat] at fits
  have continued := fits.1.1.1.1
  have byte := toNat_of_isContinuation continued
  exact ⟨continued, by omega⟩

theorem low_lt (byte : UInt8) : low byte < 64 := Nat.mod_lt _ (by decide)

section

variable {first second third fourth : UInt8}

theorem encodeChar_one (high : first.toNat < 0x80) : encodeChar (Char.ofNat first.toNat) = [first] := by
  simp only [encodeChar, toNat_ofNat (.inl (Nat.lt_trans high (by decide))), if_pos high, UInt8.ofNat_toNat]

theorem encodeChar_two (least : 0xC2 ≤ first.toNat) (high : first.toNat < 0xE0)
    (fits : isSecond first second = true) :
    encodeChar (Char.ofNat (first.toNat % 32 * 64 + low second)) = [first, second] := by
  have continued := (isSecond_bounds fits).1
  have six := low_lt second
  simp only [encodeChar, toNat_ofNat (.inl (by omega : first.toNat % 32 * 64 + low second < 0xD800)),
    Nat.shiftRight_eq_div_pow]
  rw [if_neg (by omega), if_pos (by omega), ofNat_eq first (by omega), continuation_eq continued (by omega)]

theorem encodeChar_three (least : 0xE0 ≤ first.toNat) (high : first.toNat < 0xF0)
    (fits : isSecond first second = true) (continued : isContinuation third = true) :
    encodeChar (Char.ofNat ((first.toNat % 16 * 64 + low second) * 64 + low third)) =
      [first, second, third] := by
  obtain ⟨second_continued, longer, surrogate, _⟩ := isSecond_bounds fits
  have six := low_lt second
  have six' := low_lt third
  have proper : (first.toNat % 16 * 64 + low second) * 64 + low third < 0xD800 ∨
      0xDFFF < (first.toNat % 16 * 64 + low second) * 64 + low third ∧
        (first.toNat % 16 * 64 + low second) * 64 + low third < 0x110000 := by
    omega
  simp only [encodeChar, toNat_ofNat proper, Nat.shiftRight_eq_div_pow]
  rw [if_neg (by omega), if_neg (by omega), if_pos (by omega), ofNat_eq first (by omega),
    continuation_eq second_continued (by omega), continuation_eq continued (by omega)]

theorem encodeChar_four (least : 0xF0 ≤ first.toNat) (high : first.toNat < 0xF5)
    (fits : isSecond first second = true) (continued : isContinuation third = true)
    (ended : isContinuation fourth = true) :
    encodeChar (Char.ofNat
        (((first.toNat % 8 * 64 + low second) * 64 + low third) * 64 + low fourth)) =
      [first, second, third, fourth] := by
  obtain ⟨second_continued, _, _, four, last⟩ := isSecond_bounds fits
  have six := low_lt second
  have six' := low_lt third
  have six'' := low_lt fourth
  have proper : 0xDFFF < ((first.toNat % 8 * 64 + low second) * 64 + low third) * 64 + low fourth ∧
      ((first.toNat % 8 * 64 + low second) * 64 + low third) * 64 + low fourth < 0x110000 := by
    omega
  simp only [encodeChar, toNat_ofNat (.inr proper), Nat.shiftRight_eq_div_pow]
  rw [if_neg (by omega), if_neg (by omega), if_neg (by omega), ofNat_eq first (by omega),
    continuation_eq second_continued (by omega), continuation_eq continued (by omega),
    continuation_eq ended (by omega)]

end

/-- The first bytes of the sequences of each length. -/
theorem sequenceLength?_bounds {first : UInt8} {length : Nat} (has : sequenceLength? first = some length) :
    (length = 1 → first.toNat < 0x80) ∧ (length = 2 → 0xC2 ≤ first.toNat ∧ first.toNat < 0xE0) ∧
      (length = 3 → 0xE0 ≤ first.toNat ∧ first.toNat < 0xF0) ∧
      (length ≠ 1 → length ≠ 2 → length ≠ 3 → 0xF0 ≤ first.toNat ∧ first.toNat < 0xF5) := by
  simp only [sequenceLength?, UInt8.lt_iff_toNat_lt, UInt8.reduceToNat] at has
  repeat' split at has
  all_goals cases has
  all_goals omega

/-- One more character in front. -/
theorem encode_extends {done text : List Char} {c : Char} {bytes : List UInt8}
    (read : ∃ rest, text = (c :: done).reverse ++ rest ∧ encode rest = bytes) :
    ∃ rest, text = done.reverse ++ rest ∧ encode rest = encodeChar c ++ bytes := by
  obtain ⟨rest, rfl, rfl⟩ := read
  exact ⟨c :: rest, by rw [List.reverse_cons, List.append_assoc, List.singleton_append], rfl⟩

theorem encode_of_decodeFrom {done text : List Char} {index : Nat} {bytes : List UInt8}
    (read : decodeFrom done index bytes = .ok text) :
    ∃ rest, text = done.reverse ++ rest ∧ encode rest = bytes := by
  fun_induction decodeFrom done index bytes with
  | case1 done =>
    cases read
    exact ⟨[], (List.append_nil _).symm, rfl⟩
  | case3 done index first rest has ih =>
    have high := (sequenceLength?_bounds has).1 rfl
    have longer := encode_extends (ih read)
    rwa [encodeChar_one high] at longer
  | case6 done index first second rest fits _ has ih =>
    obtain ⟨least, high⟩ := (sequenceLength?_bounds has).2.1 rfl
    have longer := encode_extends (ih read)
    rwa [encodeChar_two least high (by simpa using fits)] at longer
  | case9 done index first second fits third rest continued _ has _ ih =>
    obtain ⟨least, high⟩ := (sequenceLength?_bounds has).2.2.1 rfl
    have longer := encode_extends (ih read)
    rwa [encodeChar_three least high (by simpa using fits) (by simpa using continued)] at longer
  | case12 done index first length one has second fits two third continued three fourth rest ended code ih =>
    obtain ⟨least, high⟩ := (sequenceLength?_bounds has).2.2.2 one two three
    have longer := encode_extends (ih read)
    rwa [encodeChar_four least high (by simpa using fits) (by simpa using continued)
      (by simpa using ended)] at longer
  | case2 | case4 | case5 | case7 | case8 | case10 | case11 => cases read

/-- Bytes that are read are those of the text that is read from them. -/
theorem encode_of_decode {text : List Char} {bytes : List UInt8} (read : decode bytes = .ok text) :
    encode text = bytes := by
  obtain ⟨rest, rfl, same⟩ := encode_of_decodeFrom read
  exact same

/-- Valid are the bytes of texts. -/
theorem isValidUTF8_iff {bytes : List UInt8} :
    bytes.toByteArray.IsValidUTF8 ↔ ∃ text, encode text = bytes := by
  have same (text : List Char) : text.utf8Encode = (encode text).toByteArray := by
    rw [List.utf8Encode, encode]
    exact congrArg List.toByteArray (congrArg text.flatMap (funext encodeChar_eq)).symm
  constructor
  · rintro ⟨text, valid⟩
    rw [same, List.toByteArray_inj] at valid
    exact ⟨text, valid.symm⟩
  · rintro ⟨text, rfl⟩
    exact ⟨text, (same text).symm⟩

/-- Only the NUL has a byte that is 0. -/
theorem zero_mem_encodeChar_iff (c : Char) : 0 ∈ encodeChar c ↔ c = '\x00' := by
  have bound := toNat_lt c
  have nul : c = '\x00' ↔ c.toNat = 0 := by
    rw [← Char.toNat_inj]
    rfl
  rw [nul]
  simp only [encodeChar, continuation, Nat.shiftRight_eq_div_pow]
  repeat' split
  all_goals
    simp only [List.mem_cons, List.not_mem_nil, or_false, ← UInt8.toNat_inj, UInt8.toNat_ofNat',
      UInt8.reduceToNat]
    omega

theorem zero_mem_encode_iff (text : List Char) : 0 ∈ encode text ↔ '\x00' ∈ text := by
  simp only [encode, List.mem_flatMap, zero_mem_encodeChar_iff, exists_eq_right]

end PadBench.Text.Utf8
