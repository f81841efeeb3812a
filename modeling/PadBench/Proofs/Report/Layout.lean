import PadBench.Proofs.Arith.Bytes
import PadBench.Proofs.Arith.Words
import PadBench.Report.Encoding

/-!
Reports read by their layout, and what a report keeps of the state it was built from.

* `recover?`: the state a report stands for, an axis without a field being at the pad's neutral;
* `recover?_encode?`: the report of a state with a word that fits stands for `carried`, the same state
  with the values its fields can hold.
-/
namespace PadBench.Report

/-- The greatest value an axis field can hold. -/
def greatestAxis : ReportFormat → Int
  | .switchFull => 0xFFF
  | _ => 0xFF

/-- The greatest word the button field can hold. -/
def greatestWord : ReportFormat → Nat
  | .playStation => ByteOrder.fieldGreatest 3
  | _ => ByteOrder.fieldGreatest 4

def wordOf (bytes : List UInt8) : UInt32 := UInt32.ofNat (ByteOrder.ofBytes bytes)

def byteValue (byte : UInt8) : Option Int := some byte.toNat

/-- The horizontal axis of a stick is the low half of its three bytes. -/
def horizontal (bytes : List UInt8) : Option Int := some (ByteOrder.ofBytes bytes % 0x1000 : Nat)

def vertical (bytes : List UInt8) : Option Int := some (ByteOrder.ofBytes bytes / 0x1000 : Nat)

/-- The fields of a report: the whole word with the buttons, the hat, and the axes that have a field. -/
def read? : ReportFormat → List UInt8 → Option PadState
  | .playStation, [start, id, lx, ly, rx, ry, b₀, b₁, b₂, lm, rm] =>
    if start = header ∧ id = 0x01 then
      some ⟨wordOf [b₀, b₁, b₂], some (UInt8.ofNat (ByteOrder.ofBytes [b₀, b₁, b₂] % 16)),
        ⟨byteValue lx, byteValue ly, byteValue rx, byteValue ry, byteValue lm, byteValue rm⟩⟩
    else none
  | .switchFull, start :: id :: _ :: b₀ :: b₁ :: b₂ :: b₃ :: l₀ :: l₁ :: l₂ :: r₀ :: r₁ :: r₂ :: rest =>
    if start = header ∧ id = 0x30 ∧ rest.length = padding then
      some ⟨wordOf [b₀, b₁, b₂, b₃], none,
        ⟨horizontal [l₀, l₁, l₂], vertical [l₀, l₁, l₂], horizontal [r₀, r₁, r₂],
          vertical [r₀, r₁, r₂], none, none⟩⟩
    else none
  | .generic, [start, id, lx, ly, hat, b₀, b₁, b₂, b₃] =>
    if start = header ∧ id = 0x01 then
      some ⟨wordOf [b₀, b₁, b₂, b₃], some (hat &&& 0xF),
        ⟨byteValue lx, byteValue ly, none, none, none, none⟩⟩
    else none
  | _, _ => none

/-- The state a report stands for. An axis without a field is at the pad's neutral. -/
def recover? (pad : WirelessPad) (report : List UInt8) : Option PadState := do
  let format ← pad.reportFormat?
  let fields ← read? format report
  some { fields with
    axes := .ofFn fun axis =>
      (fields.axes.get axis).or ((pad.axes.get axis).map Calibration.neutral) }

/-- The bits of the button field that hold buttons. -/
def buttonMask : ReportFormat → UInt32
  | .playStation => 0xFFFFFFF0
  | .switchFull => 0xFFFFFF00
  | .generic => 0xFFFFFFFF

/-- What shares the button field with the buttons. -/
def beside (format : ReportFormat) (state : PadState) : UInt32 :=
  match format with
  | .playStation => (hatNibble format state).toUInt32
  | .switchFull => status
  | .generic => 0

/-- The word in the button field of a state's report. -/
def carriedWord (format : ReportFormat) (state : PadState) : UInt32 :=
  (state.buttons &&& buttonMask format) ||| beside format state

def carriedHat (format : ReportFormat) (state : PadState) : Option UInt8 :=
  match format with
  | .switchFull => none
  | _ => some (hatNibble format state)

/-- What a format's axis field holds for a value. -/
def carriedValue (format : ReportFormat) (value : Int) : Int := min (max value 0) (greatestAxis format)

/-- What the fields of a state's report say of an axis. -/
def carriedAxis (pad : WirelessPad) (format : ReportFormat) (state : PadState) (axis : Axis) :
    Option Int :=
  if axis ∈ axes format then some (carriedValue format (axisValue pad state axis)) else none

/-- What the report of a state keeps of it. -/
def carried (pad : WirelessPad) (format : ReportFormat) (state : PadState) : PadState where
  buttons := carriedWord format state
  hat := carriedHat format state
  axes := .ofFn fun axis =>
    (carriedAxis pad format state axis).or ((pad.axes.get axis).map Calibration.neutral)

theorem byteValue_byteField (value : Int) :
    byteValue (byteField value) = some (min (max value 0) 0xFF) := by
  have short : min (max value 0).toNat 0xFF < 256 := by omega
  simp only [byteValue, byteField, Option.some.injEq]
  rw [UInt8.toNat_ofNat_of_lt' short]
  omega

theorem stickField_le (value : Int) : stickField value ≤ 0xFFF := Nat.min_le_right _ _

theorem stickField_eq (value : Int) : (stickField value : Int) = min (max value 0) 0xFFF := by
  simp only [stickField]; omega

/-- Two 12-bit numbers side by side. -/
theorem pair_eq {low high : Nat} (short : low < 2 ^ 12) :
    low ||| high <<< 12 = low + high * 0x1000 := by
  rw [Nat.or_comm, Nat.shiftLeft_eq, Nat.mul_comm, ← Nat.two_pow_add_eq_or_of_lt short, Nat.add_comm,
    Nat.mul_comm]

theorem read_stick (x y : Int) :
    horizontal (stick x y) = some (min (max x 0) 0xFFF) ∧
      vertical (stick x y) = some (min (max y 0) 0xFFF) := by
  have xShort := stickField_le x
  have yShort := stickField_le y
  have xEq := stickField_eq x
  have yEq := stickField_eq y
  have number : ByteOrder.ofBytes (stick x y) = stickField x + stickField y * 0x1000 := by
    rw [stick, pair_eq (by omega)]
    apply ByteOrder.ofBytes_field_of_le
    have greatest : ByteOrder.fieldGreatest 3 = 0xFFFFFF := by decide
    omega
  simp only [horizontal, vertical, number, Option.some.injEq]
  omega

theorem three_bytes (value : Nat) : ∃ b₀ b₁ b₂, ByteOrder.field 3 value = [b₀, b₁, b₂] :=
  ⟨_, _, _, rfl⟩

theorem stick_bytes (x y : Int) : ∃ b₀ b₁ b₂, stick x y = [b₀, b₁, b₂] := three_bytes _

theorem four_bytes (value : Nat) : ∃ b₀ b₁ b₂ b₃, ByteOrder.field 4 value = [b₀, b₁, b₂, b₃] :=
  ⟨_, _, _, _, rfl⟩

theorem nibble_nibble (code : UInt8) : (code &&& 0xF) &&& 0xF = code &&& 0xF := by
  rw [UInt8.and_assoc, UInt8.and_self]

theorem hatNibble_lt (format : ReportFormat) (state : PadState) :
    (hatNibble format state).toNat < 16 := by
  rw [hatNibble, UInt8.toNat_and]
  exact Nat.lt_of_le_of_lt Nat.and_le_right (by decide)

/-- Four bytes hold any word. -/
theorem le_greatestWord (format : ReportFormat) (wide : format ≠ .playStation) (word : UInt32) :
    word.toNat ≤ greatestWord format := by
  have bound := word.toNat_lt
  have greatest : greatestWord format = 2 ^ 32 - 1 := by cases format <;> first | rfl | contradiction
  omega

theorem carriedWord_le {format : ReportFormat} {state : PadState}
    (narrow : state.buttons.toNat ≤ greatestWord format) :
    (carriedWord format state).toNat ≤ greatestWord format := by
  by_cases wide : format = .playStation
  · subst wide
    have greatest : greatestWord .playStation = 2 ^ 24 - 1 := by decide
    have short := hatNibble_lt .playStation state
    have bound : (carriedWord .playStation state).toNat < 2 ^ 24 :=
      Word.masked_or_lt _ (by omega) (by simp only [beside, UInt8.toNat_toUInt32]; omega)
    omega
  · exact le_greatestWord _ wide _

theorem carriedWord_generic (state : PadState) : carriedWord .generic state = state.buttons := by
  simp only [carriedWord, buttonMask, beside, UInt32.or_zero]
  exact UInt32.and_neg_one

theorem wordOf_field {width : Nat} {word : UInt32}
    (narrow : word.toNat ≤ ByteOrder.fieldGreatest width) :
    wordOf (ByteOrder.field width word.toNat) = word := by
  rw [wordOf, ByteOrder.ofBytes_field_of_le narrow, UInt32.ofNat_toNat]

/-- The hat of a PlayStation report is the low nibble of its word. -/
theorem word_nibble (state : PadState) :
    UInt8.ofNat ((carriedWord .playStation state).toNat % 16) = hatNibble .playStation state := by
  have short := hatNibble_lt .playStation state
  have nibble : ((state.buttons &&& 0xFFFFFFF0) ||| (hatNibble .playStation state).toUInt32).toNat %
      16 = (hatNibble .playStation state).toUInt32.toNat :=
    @Word.masked_or_mod 4 0xFFFFFFF0 _ state.buttons (by decide) (by simpa using short)
  simp only [carriedWord, buttonMask, beside]
  rw [nibble]
  simp

theorem read?_playStation (pad : WirelessPad) {state : PadState}
    (narrow : state.buttons.toNat ≤ greatestWord .playStation) :
    read? .playStation
        (playStation (axisValue pad state) (hatNibble .playStation state) state.buttons) =
      some ⟨carriedWord .playStation state, carriedHat .playStation state,
        .ofFn (carriedAxis pad .playStation state)⟩ := by
  have short := carriedWord_le narrow
  obtain ⟨b₀, b₁, b₂, bytes⟩ := three_bytes (carriedWord .playStation state).toNat
  have word := wordOf_field short
  have number := ByteOrder.ofBytes_field_of_le short
  rw [bytes] at word number
  have shape : playStation (axisValue pad state) (hatNibble .playStation state) state.buttons =
      [header, 0x01, byteField (axisValue pad state .lx), byteField (axisValue pad state .ly),
        byteField (axisValue pad state .rx), byteField (axisValue pad state .ry)] ++
      ByteOrder.field 3 (carriedWord .playStation state).toNat ++
      [byteField (axisValue pad state .lm), byteField (axisValue pad state .rm)] := rfl
  rw [shape, bytes]
  simp only [List.cons_append, List.nil_append, read?, word, number, word_nibble,
    byteValue_byteField, and_self, if_true]
  rfl

theorem read?_switchFull (pad : WirelessPad) (state : PadState) :
    read? .switchFull (switchFull (axisValue pad state) state.buttons) =
      some ⟨carriedWord .switchFull state, carriedHat .switchFull state,
        .ofFn (carriedAxis pad .switchFull state)⟩ := by
  obtain ⟨b₀, b₁, b₂, b₃, bytes⟩ := four_bytes (carriedWord .switchFull state).toNat
  obtain ⟨l₀, l₁, l₂, left⟩ := stick_bytes (axisValue pad state .lx) (axisValue pad state .ly)
  obtain ⟨r₀, r₁, r₂, right⟩ := stick_bytes (axisValue pad state .rx) (axisValue pad state .ry)
  have word : wordOf (ByteOrder.field 4 (carriedWord .switchFull state).toNat) = _ :=
    wordOf_field (le_greatestWord .switchFull (by decide) _)
  have leftAxes := read_stick (axisValue pad state .lx) (axisValue pad state .ly)
  have rightAxes := read_stick (axisValue pad state .rx) (axisValue pad state .ry)
  rw [bytes] at word
  rw [left] at leftAxes
  rw [right] at rightAxes
  have shape : switchFull (axisValue pad state) state.buttons =
      [header, 0x30, timer] ++ ByteOrder.field 4 (carriedWord .switchFull state).toNat ++
      stick (axisValue pad state .lx) (axisValue pad state .ly) ++
      stick (axisValue pad state .rx) (axisValue pad state .ry) ++ List.replicate padding 0 := rfl
  rw [shape, bytes, left, right]
  simp only [List.cons_append, List.nil_append, read?, List.length_replicate, word, leftAxes, rightAxes,
    and_self, if_true]
  rfl

theorem read?_generic (pad : WirelessPad) (state : PadState) :
    read? .generic (generic (axisValue pad state) (hatNibble .generic state) state.buttons) =
      some ⟨carriedWord .generic state, carriedHat .generic state,
        .ofFn (carriedAxis pad .generic state)⟩ := by
  obtain ⟨b₀, b₁, b₂, b₃, bytes⟩ := four_bytes state.buttons.toNat
  have word : wordOf (ByteOrder.field 4 state.buttons.toNat) = _ :=
    wordOf_field (le_greatestWord .generic (by decide) _)
  rw [bytes] at word
  rw [generic, bytes]
  simp only [List.cons_append, List.nil_append, read?, word, byteValue_byteField, hatNibble,
    nibble_nibble, and_self, if_true, carriedWord_generic]
  rfl

theorem encode?_playStation {pad : WirelessPad} (known : pad.reportFormat? = some .playStation)
    (state : PadState) :
    encode? pad state =
      some (playStation (axisValue pad state) (hatNibble .playStation state) state.buttons) := by
  simp [encode?, known]

theorem encode?_switchFull {pad : WirelessPad} (known : pad.reportFormat? = some .switchFull)
    (state : PadState) :
    encode? pad state = some (switchFull (axisValue pad state) state.buttons) := by
  simp [encode?, known]

theorem encode?_generic {pad : WirelessPad} (known : pad.reportFormat? = some .generic)
    (state : PadState) :
    encode? pad state = if isExpressible pad .generic state then
      some (generic (axisValue pad state) (hatNibble .generic state) state.buttons) else none := by
  simp [encode?, known]

/-- Only the generic format leaves a state without a report, one that displaces an axis it has no field
for. -/
theorem encode?_eq_none {pad : WirelessPad} {format : ReportFormat}
    (known : pad.reportFormat? = some format) (state : PadState) :
    encode? pad state = none ↔ format = .generic ∧ isExpressible pad .generic state = false := by
  cases format with
  | playStation => simp [encode?_playStation known]
  | switchFull => simp [encode?_switchFull known]
  | generic => simp [encode?_generic known]

theorem read?_encode? {pad : WirelessPad} {format : ReportFormat} {state : PadState}
    {report : List UInt8} (known : pad.reportFormat? = some format)
    (narrow : state.buttons.toNat ≤ greatestWord format) (sent : encode? pad state = some report) :
    read? format report = some ⟨carriedWord format state, carriedHat format state,
      .ofFn (carriedAxis pad format state)⟩ := by
  cases format with
  | playStation =>
    rw [encode?_playStation known] at sent
    rw [← Option.some.inj sent, read?_playStation pad narrow]
  | switchFull =>
    rw [encode?_switchFull known] at sent
    rw [← Option.some.inj sent, read?_switchFull]
  | generic =>
    rw [encode?_generic known] at sent
    split at sent
    · rw [← Option.some.inj sent, read?_generic]
    · cases sent

/-- The report of a state stands for what it carries. -/
theorem recover?_encode? {pad : WirelessPad} {format : ReportFormat} {state : PadState}
    {report : List UInt8} (known : pad.reportFormat? = some format)
    (narrow : state.buttons.toNat ≤ greatestWord format) (sent : encode? pad state = some report) :
    recover? pad report = some (carried pad format state) := by
  simp only [recover?, known, read?_encode? known narrow sent, Option.bind_eq_bind, Option.bind_some,
    carried, PerAxis.get_ofFn]

end PadBench.Report
