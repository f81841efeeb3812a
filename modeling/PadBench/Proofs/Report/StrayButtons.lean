import PadBench.Proofs.Report.Fidelity

/-!
Bits of a button word that lie outside the button field.

Below the buttons of a field lie the hat or the status, which no button reaches. A word with a bit above
them is too great for its field and is sent as the greatest, so that all buttons show.

* `sentWord_of_narrow`, `sentWord_of_wide`: what a PlayStation report shows of a word;
* `sentWord_full_iff`: the words that show all buttons and a full hat nibble;
* `encode?_eq_of_own`, `encode?_eq_iff_of_own`: words of the same buttons in a field of four bytes and of three;
* `stray_iff_saturated`: when words with the same buttons have the same report.
-/
namespace PadBench.Report

variable {pad : WirelessPad} {format : ReportFormat} {a b : PadState}

/-- The bits of the button field that are its buttons. -/
def ownBits : ReportFormat → UInt32
  | .playStation => 0x00FFFFF0
  | .switchFull => 0xFFFFFF00
  | .generic => 0xFFFFFFFF

/-- The word has a bit above the button field. -/
def IsWide (format : ReportFormat) (word : UInt32) : Prop := greatestWord format < word.toNat

/-- Only three bytes do not hold every word. -/
theorem not_isWide (four : format ≠ .playStation) (word : UInt32) : ¬ IsWide format word :=
  Nat.not_lt_of_le (le_greatestWord format four word)

/-- The number in the button field of a PlayStation report. -/
def sentWord (state : PadState) : Nat := min (carriedWord .playStation state).toNat (greatestWord .playStation)

theorem greatestWord_playStation : greatestWord .playStation = 0xFFFFFF := by decide

/-- Of a word that fits, a field shows the buttons and the hat beside them. -/
theorem sentWord_of_narrow (narrow : ¬ IsWide .playStation a.buttons) :
    sentWord a = ((a.buttons &&& ownBits .playStation) ||| beside .playStation a).toNat := by
  have fits : a.buttons.toNat ≤ greatestWord .playStation := Nat.le_of_not_lt narrow
  have short : a.buttons.toNat < 2 ^ 24 := by
    rw [greatestWord_playStation] at fits
    omega
  have same : a.buttons &&& buttonMask .playStation = a.buttons &&& ownBits .playStation :=
    Word.and_eq_and_of_lt short (by decide)
  rw [sentWord, Nat.min_eq_left (carriedWord_le fits), carriedWord, same]

/-- A word that does not fit is sent as the greatest. -/
theorem sentWord_of_wide (wide : IsWide .playStation a.buttons) : sentWord a = 0xFFFFFF := by
  rw [IsWide, greatestWord_playStation] at wide
  have long : 2 ^ 24 ≤ (carriedWord .playStation a).toNat :=
    Word.le_masked_or (beside .playStation a) (by decide) (by omega)
  rw [sentWord, greatestWord_playStation]
  omega

/-- A field is full if its word is too great for it, or holds all buttons beside a full hat nibble. -/
theorem sentWord_full_iff : sentWord a = 0xFFFFFF ↔ IsWide .playStation a.buttons ∨
    a.buttons &&& ownBits .playStation = ownBits .playStation ∧ hatNibble .playStation a = 0xF := by
  by_cases wide : IsWide .playStation a.buttons
  · exact ⟨fun _ => .inl wide, fun _ => sentWord_of_wide wide⟩
  · have number : (0xFFFFFF : Nat) = (ownBits .playStation ||| 0xF).toNat := by decide
    have within : beside .playStation a &&& 0xF = beside .playStation a := by
      simp only [beside, hatNibble, UInt8.toUInt32_and, UInt32.and_assoc]
      rfl
    have nibble : beside .playStation a = 0xF ↔ hatNibble .playStation a = 0xF := by
      rw [beside, ← UInt32.toNat_inj, ← UInt8.toNat_inj, UInt8.toNat_toUInt32]
      rfl
    rw [sentWord_of_narrow wide, number, UInt32.toNat_inj, Word.masked_or_eq_iff (by decide) within, nibble]
    exact ⟨.inr, fun either => either.resolve_left wide⟩

/-- PlayStation reports of the same axes differ by their button field only. -/
theorem encode?_eq_iff_sentWord (known : pad.reportFormat? = some .playStation) (axes : a.axes = b.axes) :
    encode? pad a = encode? pad b ↔ sentWord a = sentWord b := by
  have values : axisValue pad a = axisValue pad b := by
    funext axis
    rw [axisValue, axisValue, axes]
  rw [encode?_playStation known, encode?_playStation known, Option.some.injEq, values, playStation, playStation,
    List.append_left_inj, List.append_right_inj, ByteOrder.field_eq_iff]
  rfl

/-- Words of the same buttons are sent the same in a field of four bytes. -/
theorem encode?_eq_of_own (known : pad.reportFormat? = some format) (four : format ≠ .playStation)
    (hat : a.hat = b.hat) (axes : a.axes = b.axes)
    (own : a.buttons &&& ownBits format = b.buttons &&& ownBits format) : encode? pad a = encode? pad b := by
  obtain ⟨buttons, code, values⟩ := a
  obtain ⟨others, _, _⟩ := b
  subst hat axes
  cases format with
  | playStation => exact absurd rfl four
  | switchFull =>
    have own : buttons &&& 0xFFFFFF00 = others &&& 0xFFFFFF00 := own
    rw [encode?_switchFull known, encode?_switchFull known]
    simp only [switchFull, own]
    rfl
  | generic =>
    have own : buttons &&& 0xFFFFFFFF = others &&& 0xFFFFFFFF := own
    have whole (word : UInt32) : word &&& 0xFFFFFFFF = word := UInt32.and_neg_one
    rw [whole, whole] at own
    rw [own]

/-- Words of the same buttons are sent the same in a field of three bytes if both or neither fit, and else
if the one that fits fills its field. -/
theorem encode?_eq_iff_of_own (known : pad.reportFormat? = some .playStation) (hat : a.hat = b.hat)
    (axes : a.axes = b.axes) (own : a.buttons &&& ownBits .playStation = b.buttons &&& ownBits .playStation) :
    encode? pad a = encode? pad b ↔ (IsWide .playStation a.buttons ↔ IsWide .playStation b.buttons) ∨
      a.buttons &&& ownBits .playStation = ownBits .playStation ∧ hatNibble .playStation a = 0xF := by
  have nibble : hatNibble .playStation a = hatNibble .playStation b := by
    rw [hatNibble, hatNibble, hat]
  rw [encode?_eq_iff_sentWord known axes]
  by_cases wide : IsWide .playStation a.buttons
  · rw [sentWord_of_wide wide, eq_comm, sentWord_full_iff, own, nibble]
    simp only [wide, true_iff]
  by_cases wider : IsWide .playStation b.buttons
  · rw [sentWord_of_wide wider, sentWord_full_iff]
    simp only [wide, wider, iff_true]
  · have same : beside .playStation a = beside .playStation b := by
      rw [beside, beside, nibble]
    rw [sentWord_of_narrow wide, sentWord_of_narrow wider, own, same]
    exact iff_of_true rfl (.inl (iff_of_false wide wider))

/-- A word with a bit above its field is sent as all buttons beside a full hat nibble. -/
theorem encode?_of_wide (known : pad.reportFormat? = some .playStation)
    (wide : IsWide .playStation a.buttons) :
    encode? pad a = encode? pad { a with buttons := ownBits .playStation, hat := some 0xF } := by
  rw [encode?_eq_iff_sentWord known (by rfl), sentWord_of_wide wide, eq_comm, sentWord_full_iff]
  exact .inr ⟨UInt32.and_self, UInt8.and_self⟩

/-- States with the same hat, axes and own buttons of the format have the same report in a format of four
bytes. In any they have it exactly if both words or neither have a bit above the button field, or they hold
all buttons beside a full hat nibble; a word with such a bit is sent as one that does. -/
theorem stray_iff_saturated (known : pad.reportFormat? = some format) (hat : a.hat = b.hat)
    (axes : a.axes = b.axes) (own : a.buttons &&& ownBits format = b.buttons &&& ownBits format) :
    (format ≠ .playStation → encode? pad a = encode? pad b) ∧
    (encode? pad a = encode? pad b ↔ (IsWide format a.buttons ↔ IsWide format b.buttons) ∨
      a.buttons &&& ownBits format = ownBits format ∧ hatNibble format a = 0xF) ∧
    (IsWide format a.buttons →
      encode? pad a = encode? pad { a with buttons := ownBits format, hat := some 0xF }) := by
  refine ⟨fun four => encode?_eq_of_own known four hat axes own, ?_⟩
  by_cases three : format = .playStation
  · subst three
    exact ⟨encode?_eq_iff_of_own known hat axes own, encode?_of_wide known⟩
  · have neither (word : UInt32) := not_isWide three word
    exact ⟨iff_of_true (encode?_eq_of_own known three hat axes own) (.inl (iff_of_false (neither _) (neither _))),
      fun wide => absurd wide (neither _)⟩

/-- The cross of a PlayStation pad, under either of two bits above its field. -/
theorem stray_iff_saturated_cross : WirelessPad.ps4.reportFormat? = some .playStation ∧
    (0x01000020 : UInt32) &&& ownBits .playStation = 0x80000020 &&& ownBits .playStation ∧
    encode? .ps4 (PadState.empty.withButtons 0x01000020) =
      encode? .ps4 (PadState.empty.withButtons 0x80000020) := by
  have known : WirelessPad.ps4.reportFormat? = some .playStation := rfl
  have own : (0x01000020 : UInt32) &&& ownBits .playStation = 0x80000020 &&& ownBits .playStation := by decide
  have wide : IsWide .playStation 0x01000020 ∧ IsWide .playStation 0x80000020 := by
    constructor <;> rw [IsWide, greatestWord_playStation] <;> decide
  exact ⟨known, own, (stray_iff_saturated (a := PadState.empty.withButtons 0x01000020)
    (b := PadState.empty.withButtons 0x80000020) known rfl rfl own).2.1.mpr (.inl (iff_of_true wide.1 wide.2))⟩

/-- The cross alone and the cross with a bit above the field have different reports. -/
theorem stray_bit_fills_field :
    (0x20 : UInt32) &&& ownBits .playStation = 0x01000020 &&& ownBits .playStation ∧
      encode? .ps4 (PadState.empty.withButtons 0x20) =
        some [0xA1, 0x01, 0x80, 0x80, 0x80, 0x80, 0x28, 0x00, 0x00, 0x00, 0x00] ∧
      encode? .ps4 (PadState.empty.withButtons 0x01000020) =
        some [0xA1, 0x01, 0x80, 0x80, 0x80, 0x80, 0xFF, 0xFF, 0xFF, 0x00, 0x00] :=
  ⟨by decide, by decide, by decide⟩

end PadBench.Report
