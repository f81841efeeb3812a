import PadBench.Command.Decoding
import PadBench.Command.Encoding
import PadBench.Proofs.Arith.Bytes
import PadBench.Proofs.Text.Utf8

/-!
Commands written as frames and read back.

* `payload_eq`: what follows the header, how long it is, and what is read from it;
* `decode_frame`: the header tells where a payload ends, if the payload is short enough;
* `decode_of_encode`: which commands have a frame, and that it gives the command again.
-/
namespace PadBench.Command

/-- The bytes after the header of a command, if it has a frame. -/
def payloadLength : Command → Nat
  | .disconnect | .coverageDump => 0
  | .connect _ | .systemId _ => 1
  | .vidPid .. => 4
  | .name text => text.utf8ByteSize + 1
  | .hidDescriptor bytes | .globalConfig bytes => bytes.length
  | .hidReport report => 9 + report.length
  | .bridgeReport _ bytes | .outputConfig _ bytes | .inputConfig _ bytes => 1 + bytes.length

/-- The command is a name that would end before its last character. -/
def HoldsNul (command : Command) : Prop := ∃ text, command = .name text ∧ '\x00' ∈ text.toList

/-- A name is read up to the NUL that ends it. -/
theorem nameOf_encode (text : String) :
    nameOf (Text.Utf8.encode text.toList ++ [0]) = .ok (.name text) := by
  rw [nameOf, List.getLast?_concat, if_pos rfl, List.dropLast_concat, Text.Utf8.decode_encode]
  exact congrArg (fun read => Except.ok (Command.name read)) String.ofList_toList

theorem ofNat_ofBytes (word : UInt16) :
    UInt16.ofNat (ByteOrder.ofBytes [UInt8.ofNat word.toNat, UInt8.ofNat (word.toNat >>> 8)]) = word := by
  have short : word.toNat < 256 ^ 2 := word.toNat_lt
  rw [← ByteOrder.toBytes_two, ByteOrder.ofBytes_toBytes, Nat.mod_eq_of_lt short, UInt16.ofNat_toNat]

theorem ofPayload_hidReport (bytes : List UInt8) : ofPayload 0x05 bytes =
    if bytes.length < reportOffset then .error (.payloadLength 0x05 bytes.length)
    else .ok (.hidReport (bytes.drop reportOffset)) := rfl

theorem payload_of_holdsNul {command : Command} (holds : command.HoldsNul) :
    ∃ cause, command.payload = .error cause := by
  obtain ⟨text, rfl, holds⟩ := holds
  refine ⟨.nulInName text, ?_⟩
  rw [payload, if_pos (List.contains_iff_mem.mpr holds)]

/-- The payload of any other command has its length, and the command is read from it. -/
theorem payload_eq {command : Command} (clean : ¬ command.HoldsNul) :
    ∃ bytes, command.payload = .ok bytes ∧ bytes.length = command.payloadLength ∧
      ofPayload command.opcode bytes = .ok command := by
  cases command with
  | connect ble =>
    refine ⟨_, rfl, rfl, ?_⟩
    cases ble <;> rfl
  | name text =>
    have absent : ¬ text.toList.contains '\x00' := fun present =>
      clean ⟨text, rfl, List.contains_iff_mem.mp present⟩
    refine ⟨_, by rw [payload, if_neg absent], ?_, nameOf_encode text⟩
    rw [List.length_append, Text.Utf8.length_encode]
    rfl
  | hidReport report =>
    refine ⟨_, rfl, by rw [List.length_append, List.length_replicate]; rfl, ?_⟩
    have long : ¬ (List.replicate reportOffset 0 ++ report).length < reportOffset := by
      rw [List.length_append, List.length_replicate]
      omega
    have rest : (List.replicate reportOffset 0 ++ report).drop reportOffset = report :=
      List.drop_left' List.length_replicate
    rw [opcode, ofPayload_hidReport, if_neg long, rest]
  | vidPid vid pid =>
    refine ⟨_, rfl, rfl, ?_⟩
    rw [ByteOrder.toBytes_two, ByteOrder.toBytes_two]
    exact congrArg Except.ok (congrArg₂ Command.vidPid (ofNat_ofBytes vid) (ofNat_ofBytes pid))
  | bridgeReport id bytes => exact ⟨_, rfl, Nat.add_comm _ _, rfl⟩
  | outputConfig index bytes => exact ⟨_, rfl, Nat.add_comm _ _, rfl⟩
  | inputConfig index bytes => exact ⟨_, rfl, Nat.add_comm _ _, rfl⟩
  | disconnect => exact ⟨_, rfl, rfl, rfl⟩
  | coverageDump => exact ⟨_, rfl, rfl, rfl⟩
  | hidDescriptor bytes => exact ⟨_, rfl, rfl, rfl⟩
  | globalConfig bytes => exact ⟨_, rfl, rfl, rfl⟩
  | systemId id => exact ⟨_, rfl, rfl, rfl⟩

theorem length_frame (opcode handle : UInt8) (payload : List UInt8) :
    (frame opcode handle payload).length = headerLength + payload.length := by
  simp only [frame, List.cons_append, List.length_cons, List.length_append, ByteOrder.length_toBytes,
    headerLength]
  omega

/-- A payload that its length field can tell is read whole. -/
theorem decode_frame {payload : List UInt8} (short : payload.length ≤ longestPayload)
    (opcode handle : UInt8) :
    decode (frame opcode handle payload) = (ofPayload opcode payload).map (handle, ·) := by
  have below : payload.length < 256 ^ 2 := Nat.lt_succ_of_le short
  have told : ByteOrder.ofBytes (ByteOrder.toBytes 2 payload.length) = payload.length := by
    rw [ByteOrder.ofBytes_toBytes, Nat.mod_eq_of_lt below]
  rw [ByteOrder.toBytes_two] at told
  simp only [frame, ByteOrder.toBytes_two, List.cons_append, List.nil_append, decode, told]
  exact if_neg (not_not_intro rfl)

/-- A command with a frame is one whose payload its length field can tell. -/
theorem encode_eq {command : Command} (clean : ¬ command.HoldsNul) (handle : UInt8) :
    if longestPayload < command.payloadLength then
      command.encode handle = .error (.payloadTooLong command.payloadLength)
    else
      ∃ bytes, command.encode handle = .ok (frame command.opcode handle bytes) ∧
        bytes.length = command.payloadLength ∧ ofPayload command.opcode bytes = .ok command := by
  obtain ⟨bytes, paid, length, read⟩ := payload_eq clean
  rw [encode, paid, ← length]
  split
  · rename_i long
    exact if_pos long
  · rename_i short
    exact ⟨bytes, if_neg short, rfl, read⟩

/-- Every command that holds no NUL in its name and is short enough has a frame, and no other has. Its
frame is the header and the payload, and is read back as the handle and the command. -/
theorem decode_of_encode (command : Command) (handle : UInt8) :
    ((∃ cause, command.encode handle = .error cause) ↔
      command.HoldsNul ∨ 65535 < command.payloadLength) ∧
    ∀ frame, command.encode handle = .ok frame →
      frame.length = 4 + command.payloadLength ∧ decode frame = .ok (handle, command) := by
  by_cases holds : command.HoldsNul
  · obtain ⟨cause, refused⟩ := payload_of_holdsNul holds
    have failed : command.encode handle = .error cause := by
      rw [encode, refused]
      rfl
    refine ⟨⟨fun _ => .inl holds, fun _ => ⟨cause, failed⟩⟩, fun frame framed => ?_⟩
    rw [failed] at framed
    cases framed
  have outcome := encode_eq holds handle
  split at outcome
  · rename_i long
    refine ⟨⟨fun _ => .inr long, fun _ => ⟨_, outcome⟩⟩, fun frame framed => ?_⟩
    rw [outcome] at framed
    cases framed
  · rename_i short
    obtain ⟨bytes, framed, length, read⟩ := outcome
    have fits : bytes.length ≤ longestPayload := by omega
    rw [framed]
    refine ⟨⟨nofun, fun refused => (refused.elim holds short).elim⟩, fun frame same => ?_⟩
    cases same
    rw [length_frame, length, decode_frame fits, read]
    exact ⟨rfl, rfl⟩

/-- The name of a pad, told to the device with handle 7. -/
theorem decode_of_encode_name : (Command.name "Pad").encode 7 = .ok [0x03, 7, 4, 0, 0x50, 0x61, 0x64, 0] ∧
    decode [0x03, 7, 4, 0, 0x50, 0x61, 0x64, 0] = .ok (7, .name "Pad") := by
  have framed : (Command.name "Pad").encode 7 = .ok [0x03, 7, 4, 0, 0x50, 0x61, 0x64, 0] := rfl
  exact ⟨framed, ((decode_of_encode (.name "Pad") 7).2 _ framed).2⟩

end PadBench.Command
