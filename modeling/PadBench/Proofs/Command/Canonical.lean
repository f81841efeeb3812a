import Mathlib.Data.List.Basic
import PadBench.Proofs.Command.RoundTrip

/-!
The frames that commands have, told by their form alone.

More frames are read than are written; exactly the canonical ones are the same when they are read and
written again.

* `payload_canonical`, `exists_of_canonical`: the payloads of the commands of an opcode;
* `header_iff`: the length field of a header;
* `framed_iff_canonical`: the frames that are written, and those that come back unchanged.
-/
namespace PadBench.Command

/-- The opcodes and the payloads that are written under each. -/
inductive IsCanonicalPayload : UInt8 → List UInt8 → Prop
  | connect {flag : UInt8} (told : flag = 0 ∨ flag = 1) : IsCanonicalPayload 0x01 [flag]
  | disconnect : IsCanonicalPayload 0x02 []
  /-- The bytes of a text, ended by the only NUL. -/
  | name {text : List UInt8} (valid : text.toByteArray.IsValidUTF8) (clean : 0 ∉ text) :
      IsCanonicalPayload 0x03 (text ++ [0])
  | hidDescriptor (payload : List UInt8) : IsCanonicalPayload 0x04 payload
  /-- Nine bytes that say nothing, and the report. -/
  | hidReport {payload : List UInt8} (long : 9 ≤ payload.length) (zero : ∀ byte ∈ payload.take 9, byte = 0) :
      IsCanonicalPayload 0x05 payload
  | bridgeReport {payload : List UInt8} (filled : 1 ≤ payload.length) : IsCanonicalPayload 0x06 payload
  | globalConfig (payload : List UInt8) : IsCanonicalPayload 0x07 payload
  | outputConfig {payload : List UInt8} (filled : 1 ≤ payload.length) : IsCanonicalPayload 0x08 payload
  | inputConfig {payload : List UInt8} (filled : 1 ≤ payload.length) : IsCanonicalPayload 0x09 payload
  | systemId {payload : List UInt8} (one : payload.length = 1) : IsCanonicalPayload 0x0A payload
  | vidPid {payload : List UInt8} (four : payload.length = 4) : IsCanonicalPayload 0x0B payload
  | coverageDump : IsCanonicalPayload 0x0C []

/-- A whole header, whose length field tells the bytes that follow it, and a payload as it is written. -/
def IsCanonical (frame : List UInt8) : Prop :=
  ∃ opcode handle low high payload, frame = opcode :: handle :: low :: high :: payload ∧
    low.toNat + 256 * high.toNat = payload.length ∧ IsCanonicalPayload opcode payload

theorem payload_canonical {command : Command} {bytes : List UInt8} (paid : command.payload = .ok bytes) :
    IsCanonicalPayload command.opcode bytes := by
  cases command with
  | connect ble =>
    cases paid
    cases ble
    · exact .connect (.inl rfl)
    · exact .connect (.inr rfl)
  | disconnect =>
    cases paid
    exact .disconnect
  | name text =>
    rw [payload] at paid
    split at paid
    · cases paid
    · rename_i absent
      cases paid
      have clean : 0 ∉ Text.Utf8.encode text.toList := fun held =>
        absent (List.contains_iff_mem.mpr ((Text.Utf8.zero_mem_encode_iff _).mp held))
      exact .name (Text.Utf8.isValidUTF8_iff.mpr ⟨_, rfl⟩) clean
  | hidDescriptor bytes =>
    cases paid
    exact .hidDescriptor _
  | hidReport report =>
    cases paid
    refine .hidReport ?_ ?_
    · rw [List.length_append, List.length_replicate]
      exact Nat.le_add_right _ _
    · intro byte held
      have zeros : (List.replicate reportOffset (0 : UInt8) ++ report).take 9 = List.replicate 9 0 :=
        List.take_left' List.length_replicate
      rw [zeros] at held
      exact List.eq_of_mem_replicate held
  | bridgeReport id report =>
    cases paid
    exact .bridgeReport (Nat.le_add_left _ _)
  | globalConfig bytes =>
    cases paid
    exact .globalConfig _
  | outputConfig index config =>
    cases paid
    exact .outputConfig (Nat.le_add_left _ _)
  | inputConfig index config =>
    cases paid
    exact .inputConfig (Nat.le_add_left _ _)
  | systemId id =>
    cases paid
    exact .systemId rfl
  | vidPid vid pid =>
    cases paid
    exact .vidPid rfl
  | coverageDump =>
    cases paid
    exact .coverageDump

/-- Two bytes are those of the word that is read from them. -/
theorem toBytes_word (low high : UInt8) :
    ByteOrder.toBytes 2 (UInt16.ofNat (ByteOrder.ofBytes [low, high])).toNat = [low, high] := by
  have short : ByteOrder.ofBytes [low, high] < 256 ^ 2 := ByteOrder.ofBytes_lt [low, high]
  have whole : ByteOrder.ofBytes [low, high] % 2 ^ 16 = ByteOrder.ofBytes [low, high] := by omega
  rw [UInt16.toNat_ofNat', whole]
  exact ByteOrder.toBytes_ofBytes [low, high]

theorem exists_of_canonical {opcode : UInt8} {bytes : List UInt8} (canonical : IsCanonicalPayload opcode bytes) :
    ∃ command : Command, command.opcode = opcode ∧ command.payload = .ok bytes := by
  cases canonical with
  | connect told =>
    rcases told with rfl | rfl
    · exact ⟨.connect false, rfl, rfl⟩
    · exact ⟨.connect true, rfl, rfl⟩
  | disconnect => exact ⟨.disconnect, rfl, rfl⟩
  | @name text valid clean =>
    obtain ⟨characters, rfl⟩ := Text.Utf8.isValidUTF8_iff.mp valid
    refine ⟨.name (String.ofList characters), rfl, ?_⟩
    rw [Text.Utf8.zero_mem_encode_iff, ← List.contains_iff_mem] at clean
    rw [payload, String.toList_ofList, if_neg clean]
  | hidDescriptor => exact ⟨.hidDescriptor bytes, rfl, rfl⟩
  | hidReport long zero =>
    refine ⟨.hidReport (bytes.drop 9), rfl, ?_⟩
    have zeros : bytes.take 9 = List.replicate 9 0 := by
      rw [List.eq_replicate_iff]
      exact ⟨List.length_take_of_le long, zero⟩
    rw [payload, reportOffset, ← zeros, List.take_append_drop]
  | bridgeReport filled =>
    obtain ⟨id, report, rfl⟩ := List.exists_cons_of_length_pos filled
    exact ⟨.bridgeReport id report, rfl, rfl⟩
  | globalConfig => exact ⟨.globalConfig bytes, rfl, rfl⟩
  | outputConfig filled =>
    obtain ⟨index, config, rfl⟩ := List.exists_cons_of_length_pos filled
    exact ⟨.outputConfig index config, rfl, rfl⟩
  | inputConfig filled =>
    obtain ⟨index, config, rfl⟩ := List.exists_cons_of_length_pos filled
    exact ⟨.inputConfig index config, rfl, rfl⟩
  | systemId one =>
    obtain ⟨id, rfl⟩ := List.length_eq_one_iff.mp one
    exact ⟨.systemId id, rfl, rfl⟩
  | vidPid four =>
    obtain ⟨v₀, v₁, p₀, p₁, rfl⟩ := List.length_eq_four.mp four
    refine ⟨.vidPid (.ofNat (ByteOrder.ofBytes [v₀, v₁])) (.ofNat (ByteOrder.ofBytes [p₀, p₁])), rfl, ?_⟩
    rw [payload, toBytes_word, toBytes_word]
    rfl
  | coverageDump => exact ⟨.coverageDump, rfl, rfl⟩

/-- A command is written if it has a payload that the length field can tell. -/
theorem encode_ok_iff {command : Command} {handle : UInt8} {bytes : List UInt8} :
    command.encode handle = .ok bytes ↔ ∃ payload, command.payload = .ok payload ∧
      payload.length ≤ longestPayload ∧ frame command.opcode handle payload = bytes := by
  rw [encode]
  cases command.payload with
  | error cause => simp [bind, Except.bind]
  | ok payload =>
    by_cases long : longestPayload < payload.length
    · simp [bind, Except.bind, long, Nat.not_le_of_lt long]
    · simp [bind, Except.bind, long, Nat.le_of_not_lt long]

/-- The two bytes of a length, low byte first. A length that they tell is within their bound. -/
theorem header_iff {length : Nat} {low high : UInt8} :
    length ≤ longestPayload ∧ ByteOrder.toBytes 2 length = [low, high] ↔
      low.toNat + 256 * high.toNat = length := by
  have number : ByteOrder.ofBytes [low, high] = low.toNat + 256 * high.toNat := by
    simp only [ByteOrder.ofBytes, Nat.shiftLeft_eq]
    omega
  rw [← number]
  constructor
  · rintro ⟨short, same⟩
    rw [← same, ByteOrder.ofBytes_toBytes]
    exact Nat.mod_eq_of_lt (Nat.lt_succ_of_le short)
  · rintro rfl
    have below : ByteOrder.ofBytes [low, high] < 256 ^ 2 := ByteOrder.ofBytes_lt [low, high]
    refine ⟨?_, ByteOrder.toBytes_ofBytes [low, high]⟩
    rw [longestPayload]
    omega

theorem isCanonical_of_encode {command : Command} {handle : UInt8} {bytes : List UInt8}
    (framed : command.encode handle = .ok bytes) : IsCanonical bytes := by
  obtain ⟨payload, paid, short, rfl⟩ := encode_ok_iff.mp framed
  refine ⟨command.opcode, handle, _, _, payload, by rw [frame, ByteOrder.toBytes_two]; rfl, ?_,
    payload_canonical paid⟩
  exact header_iff.mp ⟨short, ByteOrder.toBytes_two _⟩

theorem encode_of_isCanonical {bytes : List UInt8} (canonical : IsCanonical bytes) :
    ∃ (command : Command) (handle : UInt8), command.encode handle = .ok bytes := by
  obtain ⟨opcode, handle, low, high, payload, rfl, told, written⟩ := canonical
  obtain ⟨command, rfl, paid⟩ := exists_of_canonical written
  obtain ⟨short, header⟩ := header_iff.mpr told
  refine ⟨command, handle, encode_ok_iff.mpr ⟨payload, paid, short, ?_⟩⟩
  rw [frame, header]
  rfl

/-- The frames that are written are the canonical ones, and these are the frames that are the same when
they are read and written again. -/
theorem framed_iff_canonical (bytes : List UInt8) :
    ((∃ (command : Command) (handle : UInt8), command.encode handle = .ok bytes) ↔ IsCanonical bytes) ∧
    ((∃ (command : Command) (handle : UInt8), decode bytes = .ok (handle, command) ∧
      command.encode handle = .ok bytes) ↔ IsCanonical bytes) := by
  constructor
  · constructor
    · rintro ⟨command, handle, framed⟩
      exact isCanonical_of_encode framed
    · exact encode_of_isCanonical
  · constructor
    · rintro ⟨command, handle, _, framed⟩
      exact isCanonical_of_encode framed
    · intro canonical
      obtain ⟨command, handle, framed⟩ := encode_of_isCanonical canonical
      exact ⟨command, handle, ((decode_of_encode command handle).2 bytes framed).2, framed⟩

/-- Any flag but zero is read as one. -/
example : decode [0x01, 0x00, 0x01, 0x00, 0xFF] = .ok (0x00, .connect true) ∧
    (connect true).encode 0x00 = .ok [0x01, 0x00, 0x01, 0x00, 0x01] := ⟨rfl, rfl⟩

end PadBench.Command
